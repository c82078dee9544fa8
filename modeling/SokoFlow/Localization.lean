import SokoFlow.Foundation.Decimal
import SokoFlow.Foundation.Format
import SokoFlow.Types

/-!
# `localization.py`

The two texts of every message key, and how the parameters of a result are
filled into the one of the shop's language.
-/

namespace SokoFlow

/-- The pieces of the two texts of a key. -/
structure Template where
  en : List String
  sw : List String

/-- `_MESSAGES` -/
def messages : MessageKey → Option Template
  | .FLOW_CANCELLED => some
      ⟨["Flow cancelled. How can I help ", "you today?"],
       ["Mchakato umeghairiwa. Ninaweza ", "kukusaidia vipi leo?"]⟩
  | .TOO_MANY_INVALID => some
      ⟨["Too many invalid attempts. I've ", "cancelled this request so we can ",
        "start fresh. Type 'add product' ", "to try again."],
       ["Majaribio mengi si sahihi. ", "Nimeghairi ombi hili ili tuanze ",
        "upya. Andika 'add product' ", "kujaribu tena."]⟩
  | .UNKNOWN_INTENT => some
      ⟨["Type 'add product', 'record ", "sale', or 'check stock' to begin."],
       ["Andika 'add product', 'record ", "sale', au 'check stock' kuanza."]⟩
  | .START_SALE => some
      ⟨["Great, let's record a sale. What ", "product was sold?"],
       ["Sawa, hebu turekodi mauzo. Ni ", "bidhaa gani iliuzwa?"]⟩
  | .START_STOCK_CHECK => some
      ⟨["Sure, let's check stock. Which ", "product would you like to lookup?"],
       ["Sawa, hebu tuangalie stoo. ", "Unataka kuangalia bidhaa gani?"]⟩
  | .REPORT_GENERATING => some
      ⟨["Great. The report is being ", "generated. Just a moment while we ",
        "process and send it to you."],
       ["Sawa. Ripoti inaundwa. Subiri ", "kidogo tunapoichakata na ", "kukutumia."]⟩
  | .START_ADD_PRODUCT => some
      ⟨["Great, let's add a product. What ", "is the product name?"],
       ["Sawa, hebu tuongeze bidhaa. Jina ", "la bidhaa ni lipi?"]⟩
  | .ASK_PRICE => some
      ⟨["Nice. What is the price in KES?"],
       ["Vizuri. Bei ni kiasi gani kwa KES?"]⟩
  | .ASK_STOCK_QUANTITY => some
      ⟨["Got it. How many units are in ", "stock?"],
       ["Nimekupata. Kuna vipande vingapi ", "stoo?"]⟩
  | .CONFIRM_PRODUCT => some
      ⟨["Please confirm: {product_name} at ", "KES {price:.2f}, quantity ",
        "{quantity}. Reply Yes or No."],
       ["Thibitisha: {product_name} kwa ", "KES {price:.2f}, kiasi ",
        "{quantity}. Jibu Yes au No."]⟩
  | .PRODUCT_CANCELLED => some
      ⟨["No problem. I cancelled the ", "product flow."],
       ["Hakuna shida. Nimeghairi mchakato ", "wa bidhaa."]⟩
  | .PRODUCT_ADDED => some
      ⟨["Product added: {product_name} at ", "KES {price:.2f} with opening ",
        "quantity {quantity}."],
       ["Bidhaa imeongezwa: {product_name} ", "kwa KES {price:.2f} na kiasi cha ",
        "kuanzia {quantity}."]⟩
  | .ASK_SALE_QUANTITY => some
      ⟨["Got it. How many units sold?"],
       ["Nimekupata. Vipande vingapi ", "viliuzwa?"]⟩
  | .ASK_QUANTITY => some
      ⟨["Got it. How many units?"],
       ["Nimekupata. Vipande vingapi?"]⟩
  | .PRODUCT_NOT_FOUND => some
      ⟨["I couldn't find a matching ", "product.\nPlease check the name ",
        "and try again, or type *'cancel'* ", "to stop."],
       ["Sikupata bidhaa inayolingana.\n", "Angalia jina ujaribu tena, au ",
        "andika *'cancel'* kusitisha."]⟩
  | .PRODUCT_CHOICES => some
      ⟨["Which product did you mean?\n\n", "{choices}\n\nReply with a number ",
        "from 1 to {count}."],
       ["Ulikusudia bidhaa gani?\n\n", "{choices}\n\nJibu kwa nambari ",
        "kutoka 1 hadi {count}."]⟩
  | .CONFIRM_SALE => some
      ⟨["Confirm Sale:\n- Product: ", "{product_name}\n- Quantity: ",
        "{quantity}\n- Total: KES ", "{total:.2f}\n\nReply *yes* to ",
        "record or *no* to cancel."],
       ["Thibitisha Mauzo:\n- Bidhaa: ", "{product_name}\n- Kiasi: ",
        "{quantity}\n- Jumla: KES ", "{total:.2f}\n\nJibu *yes* kurekodi ", "au *no* kughairi."]⟩
  | .SALE_CANCELLED => some
      ⟨["No problem. I cancelled the sale ", "flow."],
       ["Hakuna shida. Nimeghairi mchakato ", "wa mauzo."]⟩
  | .SALE_RECORDED => some
      ⟨["Sale recorded: *{product_name}* ", "({quantity} units).\nStock ",
        "remaining: *{remaining_stock}* ", "units."],
       ["Mauzo yamerekodiwa: ", "*{product_name}* ({quantity} ", "vipande).\nStoo iliyobaki: ",
        "*{remaining_stock}* vipande."]⟩
  | .STOCK_NOT_FOUND => some
      ⟨["I could not find a product in the ", "inventory with that name."],
       ["Sikupata bidhaa yenye jina hilo ", "kwenye stoo."]⟩
  | .STOCK_REMAINING => some
      ⟨["Remaining stock for ", "{product_name}: {quantity} units"],
       ["Stoo iliyobaki ya {product_name}: ", "{quantity} vipande"]⟩
  | .PRODUCT_NAME_INVALID => some
      ⟨["Product name must be between 2 ", "and 100 characters."],
       ["Jina la bidhaa lazima liwe na ", "herufi 2 hadi 100."]⟩
  | .PRICE_INVALID => some
      ⟨["Please enter a valid price, e.g. ", "'150', 'KES 150', or '150/='."],
       ["Weka bei sahihi, kwa mfano '150', ", "'KES 150', au '150/='."]⟩
  | .PRICE_NON_POSITIVE => some
      ⟨["Price must be greater than 0"],
       ["Bei lazima iwe zaidi ya 0"]⟩
  | .QUANTITY_INVALID => some
      ⟨["Please enter a whole number, e.g. ", "0, 1, or 25."],
       ["Weka nambari kamili, kwa mfano 0, ", "1, au 25."]⟩
  | .QUANTITY_NEGATIVE => some
      ⟨["Quantity cannot be negative."],
       ["Kiasi hakiwezi kuwa hasi."]⟩
  | .CONFIRMATION_INVALID => some
      ⟨["Please reply with Yes/Y/Ndio/1 or ", "No/N/Zii/2."],
       ["Jibu Yes/Y/Ndio/1 au No/N/Zii/2."]⟩
  | .UNKNOWN_ERROR => some
      ⟨["{message}"],
       ["{message}"]⟩
  | .INVALID_CHOICE => some
      ⟨["Invalid Choice"],
       ["Chaguo si sahihi"]⟩
  | .QUANTITY_TOO_LOW => some
      ⟨["Please enter a quantity greater ", "than 0."],
       ["Weka kiasi kikubwa kuliko 0."]⟩
  | .SESSION_CONTEXT_LOST => some
      ⟨["I lost some product details. Type ", "'add product' to start again."],
       ["Nimepoteza maelezo ya bidhaa. ", "Andika 'add product' kuanza tena."]⟩
  | .SHOP_NOT_FOUND => some
      ⟨["I couldn't find your shop ", "profile. Please contact support."],
       ["Sikupata wasifu wa duka lako. ", "Tafadhali wasiliana na msaada."]⟩
  | .INSUFFICIENT_STOCK => some
      ⟨["Insufficient stock! Only ", "*{available}* units of ",
        "{product_name} remaining. Please ", "enter a valid quantity."],
       ["Stoo haitoshi! Zimesalia vipande ", "*{available}* vya {product_name}. ",
        "Weka kiasi sahihi."]⟩
  | .LOW_STOCK_ALERT => some
      ⟨["*Low Stock Alert*: Only ", "{remaining_stock} units left for ",
        "*{product_name}*. Consider ", "restocking."],
       ["*Tahadhari ya Stoo ya Chini*: ", "Zimesalia vipande ", "{remaining_stock} tu vya ",
        "*{product_name}*. Fikiria ", "kuongeza bidhaa."]⟩
  | .ANALYTICS_SALES_SUMMARY => some
      ⟨["Sales summary for {period_name}:\n", "- Total Revenue: KES ",
        "{total_revenue}\n- Transactions: ", "{transaction_count}"],
       ["Muhtasari wa mauzo ya ", "{period_name}:\n- Jumla ya Mapato: ",
        "KES {total_revenue}\n- Miamala: ", "{transaction_count}"]⟩
  | .ANALYTICS_SALES_SUMMARY_EMPTY => some
      ⟨["No sales were recorded for ", "{period_name}."],
       ["Hakuna mauzo yaliyorekodiwa kwa ", "{period_name}."]⟩
  | .ANALYTICS_STOCK_LEVEL => some
      ⟨["Stock level for *{product_name}*: ", "{quantity} units (KES {price} / ", "unit)."],
       ["Kiwango cha stoo ya ", "*{product_name}*: vipande ", "{quantity} (KES {price} kwa ",
        "kipande)."]⟩
  | .ANALYTICS_STOCK_LEVEL_LOW => some
      ⟨["Stock level for *{product_name}*: ", "*{quantity} units* (KES {price} / ",
        "unit).\n*Low Stock Warning*: At or ", "below threshold ({threshold} ", "units)!"],
       ["Kiwango cha stoo ya ", "*{product_name}*: *vipande ", "{quantity}* (KES {price} kwa ",
        "kipande).\n*Tahadhari ya Stoo ya ", "Chini*: Imefikia au iko chini ya ",
        "kiwango cha tahadhari ", "({threshold} vipande)!"]⟩
  | .ANALYTICS_TOP_PRODUCTS => some
      ⟨["Top products for {period_name}:\n", "{products_summary}"],
       ["Bidhaa zinazoongoza kwa ", "{period_name}:\n{products_summary}"]⟩
  | .ANALYTICS_TOP_PRODUCTS_EMPTY => some
      ⟨["No product sales were recorded ", "for {period_name}."],
       ["Hakuna mauzo ya bidhaa ", "yaliyorekodiwa kwa {period_name}."]⟩
  | .ANALYTICS_LOW_STOCK_ITEMS => some
      ⟨["⚠️ *Low Stock Alert* ({count} ", "items):\n{items_summary}"],
       ["⚠️ *Tahadhari ya Bidhaa ", "Zinazoisha* (bidhaa {count}):\n", "{items_summary}"]⟩
  | .ANALYTICS_LOW_STOCK_ITEMS_EMPTY => some
      ⟨["Good news! All products are ", "well-stocked above their ", "thresholds."],
       ["Habari njema! Bidhaa zote ziko ", "juu ya kiwango cha tahadhari ya ", "stoo."]⟩
  | .ANALYTICS_SALES_TREND => some
      ⟨["Sales trend for {period_name} vs ", "{comparison_period_name}:\n• ",
        "Revenue: KES {current_revenue} ", "(vs KES {previous_revenue}, ",
        "{revenue_change})\n• Transactions: ", "{current_transactions} (vs ",
        "{previous_transactions}, ", "{transaction_change})"],
       ["Mwenendo wa mauzo kwa ", "{period_name} kulinganisha na ",
        "{comparison_period_name}:\n• ", "Mapato: KES {current_revenue} ",
        "(kulinganisha na KES ", "{previous_revenue}, ", "{revenue_change})\n• Miamala: ",
        "{current_transactions} ", "(kulinganisha na ", "{previous_transactions}, ",
        "{transaction_change})"]⟩
  | .ANALYTICS_SALES_TREND_EMPTY => some
      ⟨["No sales activity recorded for ", "{period_name} or the comparison ", "period."],
       ["Hakuna mauzo yaliyorekodiwa kwa ", "{period_name} au kipindi cha ", "kulinganisha."]⟩
  | .ANALYTICS_SLOW_MOVING_ITEMS => some
      ⟨["Slow-moving products for ", "{period_name} ({count} items):\n", "{items_summary}"],
       ["Bidhaa zinazouza polepole kwa ", "{period_name} (bidhaa {count}):\n", "{items_summary}"]⟩
  | .ANALYTICS_SLOW_MOVING_ITEMS_EMPTY => some
      ⟨["Great news! No slow-moving items ", "found for {period_name}."],
       ["Habari nzuri! Hakuna bidhaa ", "zinazouza polepole kwa ", "{period_name}."]⟩
  | .ANALYTICS_PRODUCT_PRICE => some
      ⟨["The price of *{product_name}* is ", "*KES {price}* (SKU: {sku})."],
       ["Bei ya *{product_name}* ni *KES ", "{price}* (SKU: {sku})."]⟩
  | .ANALYTICS_INVALID_PROPOSAL => some
      ⟨["I didn't quite understand that ", "question. You can ask about ",
        "sales, stock, or top products."],
       ["Sikuelewa vizuri swali hilo. ", "Unaweza kuuliza kuhusu mauzo, ",
        "stoo, au bidhaa zinazoongoza."]⟩
  | .ANALYTICS_PROVIDER_UNAVAILABLE => some
      ⟨["I'm having trouble connecting to ", "the analytics service right now. ",
        "Please try again shortly."],
       ["Ninapata shida kuunganisha kwenye ", "huduma ya takwimu kwa sasa. ",
        "Tafadhali jaribu tena baada ya ", "muda mfupi."]⟩
  | .ANALYTICS_DOMAIN_ERROR => some
      ⟨["{message}"],
       ["{message}"]⟩
  | .ANALYTICS_INFRASTRUCTURE_ERROR => some
      ⟨["Information could not be ", "retrieved right now. Please try ", "again shortly."],
       ["Taarifa hazikuweza kupatikana kwa ", "sasa. Tafadhali jaribu tena baada ",
        "ya muda mfupi."]⟩
  | .ANALYTICS_DAILY_LIMIT | .ANALYTICS_TEMPORARILY_UNAVAILABLE => none

/-- What a parameter is, which decides the format specifications it takes. -/
inductive Param.Kind
  | text
  | int
  | decimal
  | candidates
  deriving DecidableEq

def Param.kind : Param → Kind
  | text _ => .text
  | int _ => .int
  | decimal _ => .decimal
  | candidates _ => .candidates

/-- `format(value, spec)`.  A price has the two places of its column; a list is
never filled in itself. -/
def Param.format (spec : String) : Param → Except Exc String
  | text s => if spec = "" then .ok s
      else .error (.other "ValueError" "Unknown format code 'f' for object of type 'str'")
  | int n => if spec = "" then .ok (Text.ofInt n) else .ok (Decimal.fixed 2 n)
  | decimal q => .ok (Decimal.fixed 2 q)
  | candidates _ => .error (.other "TypeError" "unsupported format string passed to list")

/-- `values[name] = value` -/
def Params.set (params : Params) (name : String) (value : Param) : Params :=
  (name, value) :: params

def Params.get? (params : Params) (name : String) : Option Param :=
  (params.find? (·.1 = name)).map (·.2)

/-- The lines of the candidates, numbered from 1. -/
def choiceLines (shown : List ScoredProductMatch) : String :=
  Text.join "\n" (shown.zipIdx.map fun (candidate, i) ↦
    Text.ofInt (i + 1) ++ ". " ++ candidate.name ++ " — " ++ Decimal.fixed 2 candidate.price)

/-- The values a template may ask for. -/
def templateValues (key : MessageKey) (params : Params) : Except Exc Params :=
  if key = .PRODUCT_CHOICES then
    match params.get? "candidates" with
    | none => .ok ((params.set "choices" (.text "")).set "count" (.int 0))
    | some (.candidates shown) =>
        .ok ((params.set "choices" (.text (choiceLines shown))).set "count" (.int shown.length))
    | some _ => .error (.other "TypeError" "string indices must be integers")
  else .ok params

def fieldText (values : Params) (name spec : String) : Except Exc String :=
  match values.get? name with
  | some value => value.format spec
  | none => .error (.other "KeyError" name)

/-- `selected_locale` -/
def selectTemplate (locale : String) (template : Template) : List String :=
  if locale = "sw" then template.sw else template.en

/-- `render_message` -/
def renderMessage (key : MessageKey) (locale : String) (params : Params) : Except Exc String :=
  match messages key with
  | none => .error (.other "KeyError" "message_key")
  | some template =>
      match Format.parse (selectTemplate locale template) with
      | none => .error (.other "ValueError" "Single brace encountered in format string")
      | some segments => do
          let values ← templateValues key params
          Format.fill (fieldText values) segments

/-! ## Which parameters a template takes -/

/-- The fields of the two templates of a key, with their format specifications. -/
def fieldsOf : MessageKey → List (String × String)
  | .CONFIRM_PRODUCT | .PRODUCT_ADDED =>
      [("product_name", ""), ("price", ".2f"), ("quantity", "")]
  | .PRODUCT_CHOICES => [("choices", ""), ("count", "")]
  | .CONFIRM_SALE => [("product_name", ""), ("quantity", ""), ("total", ".2f")]
  | .SALE_RECORDED => [("product_name", ""), ("quantity", ""), ("remaining_stock", "")]
  | .STOCK_REMAINING => [("product_name", ""), ("quantity", "")]
  | .UNKNOWN_ERROR | .ANALYTICS_DOMAIN_ERROR => [("message", "")]
  | .INSUFFICIENT_STOCK => [("available", ""), ("product_name", "")]
  | .LOW_STOCK_ALERT => [("remaining_stock", ""), ("product_name", "")]
  | .ANALYTICS_SALES_SUMMARY =>
      [("period_name", ""), ("total_revenue", ""), ("transaction_count", "")]
  | .ANALYTICS_SALES_SUMMARY_EMPTY | .ANALYTICS_TOP_PRODUCTS_EMPTY | .ANALYTICS_SALES_TREND_EMPTY
  | .ANALYTICS_SLOW_MOVING_ITEMS_EMPTY => [("period_name", "")]
  | .ANALYTICS_STOCK_LEVEL => [("product_name", ""), ("quantity", ""), ("price", "")]
  | .ANALYTICS_STOCK_LEVEL_LOW =>
      [("product_name", ""), ("quantity", ""), ("price", ""), ("threshold", "")]
  | .ANALYTICS_TOP_PRODUCTS => [("period_name", ""), ("products_summary", "")]
  | .ANALYTICS_LOW_STOCK_ITEMS => [("count", ""), ("items_summary", "")]
  | .ANALYTICS_SALES_TREND =>
      [("period_name", ""), ("comparison_period_name", ""), ("current_revenue", ""),
        ("previous_revenue", ""), ("revenue_change", ""), ("current_transactions", ""),
        ("previous_transactions", ""), ("transaction_change", "")]
  | .ANALYTICS_SLOW_MOVING_ITEMS => [("period_name", ""), ("count", ""), ("items_summary", "")]
  | .ANALYTICS_PRODUCT_PRICE => [("product_name", ""), ("price", ""), ("sku", "")]
  | _ => []

/-- A text that parses and has no field besides these. -/
def hasFields (fields : List (String × String)) (pieces : List String) : Bool :=
  match Format.parse pieces with
  | none => false
  | some segments => segments.all fun
      | .char _ => true
      | .field name spec => (name, spec) ∈ fields

/-- Both texts of every key have the fields of the table. -/
theorem messages_hasFields (key : MessageKey) : (messages key).all (fun template ↦
    hasFields (fieldsOf key) template.en && hasFields (fieldsOf key) template.sw) = true := by
  cases key <;> decide +kernel

def Param.Kind.takes (spec : String) : Kind → Bool
  | .text => spec = ""
  | .int | .decimal => true
  | .candidates => false

/-- The names of parameters and what they are. -/
abbrev Shape := List (String × Param.Kind)

def Params.shape (params : Params) : Shape := params.map fun p ↦ (p.1, p.2.kind)

def Shape.get? (shape : Shape) (name : String) : Option Param.Kind :=
  (shape.find? (·.1 = name)).map (·.2)

/-- Every field has a value it can format. -/
def Shape.fits (shape : Shape) (fields : List (String × String)) : Bool :=
  fields.all fun (name, spec) ↦ (shape.get? name).any (·.takes spec)

/-- Parameters of this shape can be rendered under the key. -/
def renderable (key : MessageKey) (shape : Shape) : Bool :=
  (messages key).isSome &&
    if key = .PRODUCT_CHOICES then shape.get? "candidates" = some .candidates
    else shape.fits (fieldsOf key)

/-- A reply that can be rendered, whatever the shop's language. -/
def Readable (reply : MessageKey × Params) : Prop :=
  ∀ locale, ∃ text, renderMessage reply.1 locale reply.2 = .ok text

theorem Param.format_ok {spec : String} {p : Param} (h : p.kind.takes spec = true) :
    ∃ text, p.format spec = .ok text := by
  cases p with
  | text s => exact ⟨s, by simpa [kind, Kind.takes, format] using h⟩
  | int n => by_cases hs : spec = "" <;> simp [format, hs]
  | decimal q => exact ⟨_, rfl⟩
  | candidates shown => simp [kind, Kind.takes] at h

theorem Params.get?_shape (params : Params) (name : String) :
    params.shape.get? name = (params.get? name).map Param.kind := by
  unfold Shape.get? get? shape
  rw [List.find?_map, Option.map_map, Option.map_map]
  rfl

/-- Values that fit the fields of a text fill it in. -/
theorem fill_of_fits {values : Params} {pieces : List String} {fields : List (String × String)}
    (hp : hasFields fields pieces = true) (hv : values.shape.fits fields = true) :
    ∃ segments text, Format.parse pieces = some segments ∧
      Format.fill (fieldText values) segments = .ok text := by
  unfold hasFields at hp
  cases hs : Format.parse pieces with
  | none => simp [hs] at hp
  | some segments =>
      rw [hs] at hp
      have hfield (name spec : String) (hmem : .field name spec ∈ segments) :
          ∃ shown, fieldText values name spec = .ok shown := by
        have hin : (name, spec) ∈ fields := by simpa using List.all_eq_true.mp hp _ hmem
        have hfit := List.all_eq_true.mp hv _ hin
        dsimp only at hfit
        rw [Params.get?_shape] at hfit
        unfold fieldText
        cases hg : values.get? name with
        | none => simp [hg] at hfit
        | some value =>
            rw [hg] at hfit
            exact Param.format_ok (by simpa using hfit)
      obtain ⟨text, ht⟩ := Format.fill_ok_iff.mpr hfield
      exact ⟨segments, text, rfl, ht⟩

/-- The values a renderable key asks for are there, and fit its fields. -/
theorem templateValues_of_renderable {key : MessageKey} {params : Params}
    (h : renderable key params.shape = true) : ∃ values,
      templateValues key params = .ok values ∧ values.shape.fits (fieldsOf key) = true := by
  unfold renderable at h
  rw [Bool.and_eq_true] at h
  obtain ⟨-, h⟩ := h
  unfold templateValues
  split at h
  · rename_i hk
    rw [if_pos hk, hk]
    rw [decide_eq_true_eq, Params.get?_shape] at h
    cases hg : params.get? "candidates" with
    | none => simp [hg] at h
    | some p =>
        cases p with
        | candidates shown => exact ⟨_, rfl, by simp [Shape.fits, fieldsOf, Shape.get?, Params.shape,
            Params.set, Param.kind, Param.Kind.takes]⟩
        | _ => simp [hg, Param.kind] at h
  · rename_i hk
    exact ⟨params, if_neg hk, h⟩

/-- What the shape of the parameters promises, rendering keeps. -/
theorem readable_of_renderable {key : MessageKey} {params : Params}
    (h : renderable key params.shape = true) : Readable (key, params) := by
  intro locale
  obtain ⟨values, hvalues, hfits⟩ := templateValues_of_renderable h
  have hfields := messages_hasFields key
  unfold renderMessage
  cases hm : messages key with
  | none => simp [renderable, hm] at h
  | some template =>
      rw [hm, Option.all_some, Bool.and_eq_true] at hfields
      have hselected : hasFields (fieldsOf key) (selectTemplate locale template) = true := by
        unfold selectTemplate
        split
        · exact hfields.2
        · exact hfields.1
      obtain ⟨segments, text, hp, ht⟩ := fill_of_fits hselected hfits
      dsimp only
      rw [hp, hvalues]
      exact ⟨text, ht⟩

example : renderMessage .CONFIRM_SALE "sw" [("product_name", .text "Maziwa \x7bx\x7d"),
    ("quantity", .int 3), ("total", .decimal 180)] = .ok ("Thibitisha Mauzo:\n- Bidhaa: " ++
      "Maziwa \x7bx\x7d\n- Kiasi: 3\n- Jumla: KES 180.00\n\nJibu *yes* kurekodi au *no* kughairi.") := by
  decide +kernel

end SokoFlow
