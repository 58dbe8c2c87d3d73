-- Values that are written in JSON and read back, by themselves and in lists. Texts, booleans and
-- moments come back as they are. A number comes back with its value, but maybe at another scale,
-- since it is read from one of the forms in which it is written. Options come back without their
-- plugins.
import Formulary.Proofs.DateTexts
import Formulary.Proofs.JsonTexts
import Formulary.Proofs.NumberTexts
import Formulary.Serialization

namespace Formulary.Value

/-- Whether a value can be moved through JSON: all but moments in a leap second. -/
def Portable : Value → Prop
  | text _ => True
  | number _ => True
  | boolean _ => True
  | datetime d => ¬ d.InLeapSecond

/-- Values are equal if they are the same, or numbers of one value. -/
inductive Equal : Value → Value → Prop
  | refl (v : Value) : Equal v v
  | number {x y : Decimal} (h : y.toRat = x.toRat) : Equal (.number x) (.number y)

/-! ## One value -/

theorem encoded_toJson (v : Value) : v.toJson.Encoded := by
  have hfield (name : String) {j : Json} (hj : j.Encoded) :
      (Json.object (Json.namedFields [(name, j)])).Encoded := by
    apply Json.Encoded.object
    intro field hmem
    rw [List.mem_singleton.mp hmem]
    exact hj
  cases v with
  | text s => exact hfield "Text" (.text s)
  | number n => exact hfield "Number" (.text n.toText)
  | boolean b => exact hfield "Boolean" (.bool b)
  | datetime d => exact hfield "Datetime" (.text (String.ofList (Calendar.iso d)))

theorem ofJsonWithin?_field (depth : Nat) (name : String) (content : Json) :
    ofJsonWithin? depth (.object [(Json.escaped name, content)]) = ofField? depth name content := by
  rw [ofJsonWithin?, Json.decode?_escaped]
  rfl

/-- The object of a value stands for the value, however deep it lies. -/
theorem exists_ofJsonWithin?_toJson {v : Value} (h : v.Portable) (depth : Nat) :
    ∃ w, ofJsonWithin? depth v.toJson = some w ∧ v.Equal w := by
  cases v with
  | text s =>
    refine ⟨.text s, ?_, .refl _⟩
    rw [toJson, ofJsonWithin?_field, Json.text, ofField?, Json.decode?_escaped]
    rfl
  | number n =>
    obtain ⟨z, hread, hvalue⟩ := n.ofText?_toText
    refine ⟨.number z, ?_, .number hvalue⟩
    rw [toJson, ofJsonWithin?_field, Json.text, ofField?, Decimal.ofJson?, Json.decode?_escaped,
      Option.bind_some, hread]
    rfl
  | boolean b =>
    refine ⟨.boolean b, ?_, .refl _⟩
    rw [toJson, ofJsonWithin?_field, ofField?]
  | datetime d =>
    refine ⟨.datetime d, ?_, .refl _⟩
    rw [toJson, ofJsonWithin?_field, Json.text, ofField?, Json.decode?_escaped, Option.bind_some,
      Calendar.parseIso?_iso h]
    rfl

theorem exists_deserialize?_serialize {v : Value} (h : v.Portable) :
    ∃ w, deserialize? v.serialize = some w ∧ v.Equal w := by
  unfold deserialize? serialize
  rw [Json.ofText?_toText v.encoded_toJson, Option.bind_some]
  exact exists_ofJsonWithin?_toJson h Decimal.maxNumberDepth

/-! ## Lists of values -/

theorem exists_mapM_ofJsonWithin? {vs : List Value} (h : ∀ v ∈ vs, v.Portable) (depth : Nat) :
    ∃ ws, (vs.map toJson).mapM (ofJsonWithin? depth) = some ws ∧ List.Forall₂ Equal vs ws := by
  induction vs with
  | nil => exact ⟨[], rfl, .nil⟩
  | cons v vs ih =>
    obtain ⟨w, hw, hvw⟩ := exists_ofJsonWithin?_toJson (h v List.mem_cons_self) depth
    obtain ⟨ws, hws, hvs⟩ := ih fun v hv => h v (List.mem_cons_of_mem _ hv)
    refine ⟨w :: ws, ?_, .cons hvw hvs⟩
    rw [List.map_cons, List.mapM_cons, hw, hws]
    rfl

theorem exists_deserializeList?_serializeList {vs : List Value} (h : ∀ v ∈ vs, v.Portable) :
    ∃ ws, deserializeList? (serializeList vs) = some ws ∧ List.Forall₂ Equal vs ws := by
  have hencoded : (Json.array (vs.map toJson)).Encoded := by
    apply Json.Encoded.array
    intro j hj
    obtain ⟨v, -, rfl⟩ := List.mem_map.mp hj
    exact v.encoded_toJson
  unfold deserializeList? serializeList
  rw [Json.ofText?_toText hencoded, Option.bind_some]
  exact exists_mapM_ofJsonWithin? h (Decimal.maxNumberDepth - 1)

/-! ## The law -/

/-- The law of values in JSON: what is written of a value is read back as an equal value, and what
is written of a list of values is read back as a list of equal values, in their order. -/
theorem values_survive_json :
    (∀ v : Value, v.Portable → ∃ w, deserialize? v.serialize = some w ∧ v.Equal w) ∧
      ∀ vs : List Value, (∀ v ∈ vs, v.Portable) →
        ∃ ws, deserializeList? (serializeList vs) = some ws ∧ List.Forall₂ Equal vs ws :=
  ⟨fun _ => exists_deserialize?_serialize, fun _ => exists_deserializeList?_serializeList⟩

/-- One value of each type, the number with the lowest scale and the moment before the year zero. -/
theorem values_survive_json_eachType :
    let d : Datetime := ⟨⟨-44, 3, 15, by decide, by decide⟩, 23, 59, 59, 500000000,
      by decide, by decide, by decide, by decide⟩
    let vs : List Value :=
      [text "a \"b\"\n", number ⟨-1250, -9223372036854775808⟩, boolean true, datetime d]
    (∀ v ∈ vs, v.Portable) ∧ (∀ v ∈ vs, ∃ w, deserialize? v.serialize = some w ∧ v.Equal w) ∧
      ∃ ws, deserializeList? (serializeList vs) = some ws ∧ List.Forall₂ Equal vs ws := by
  intro d vs
  have hd : ¬ d.InLeapSecond := by decide
  have h : ∀ v ∈ vs, v.Portable := by
    simp [vs, Portable, hd]
  exact ⟨h, fun v hv => values_survive_json.1 v (h v hv), values_survive_json.2 vs h⟩

end Formulary.Value

/-! ## Options -/

namespace Formulary.EngineOptions

theorem encoded_toJson (o : EngineOptions) : o.toJson.Encoded := by
  have hfields : ∀ field ∈ [("cache_capacity", Json.number (Nat.toDigits 10 o.capacity))],
      field.2.Encoded := by
    intro field hmem
    rw [List.mem_singleton.mp hmem]
    exact .number o.capacity
  exact .object hfields

/-- Options that are written are read back without their plugins, if the capacity has 64 bits. -/
theorem ofJson?_ofText?_toJson {o : EngineOptions} (h : o.capacity < 18446744073709551616) :
    (Json.ofText? o.toJson.toText).bind ofJson? = some { capacity := o.capacity } := by
  have hdigits : (Nat.toDigits 10 o.capacity).all Char.isDigit = true :=
    List.all_eq_true.mpr isDigit_toDigits
  have hcapacity : capacityOfJson? (.number (Nat.toDigits 10 o.capacity)) = some o.capacity := by
    rw [capacityOfJson?, digitsValue_toDigits, if_pos ⟨hdigits, h⟩]
  rw [Json.ofText?_toText o.encoded_toJson, Option.bind_some, toJson, ofJson?]
  simp [ofFields?, hcapacity]

end Formulary.EngineOptions
