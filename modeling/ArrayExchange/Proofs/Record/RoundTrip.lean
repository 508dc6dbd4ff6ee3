import ArrayExchange.Proofs.Json.RoundTrip
import ArrayExchange.Record.Reading

/-!
# Records there and back

The JSON text of a record is that of an object with its five fields.  Reading the text gives this
object back, and reading the fields gives the record.  A payload comes back in canonical form, and one
whose objects have ascending keys is in that form already.

* `Json.normalize_of_canonical` — a canonical value is its own canonical form.
* `Record.value`, `Record.chars_eq` — a record as a JSON value.
* `Record.read_value` — the fields of a record are read back.
* `Record.ofBytes_text` — the main result.
-/

namespace ArrayExchange

/-! ### Canonical values -/

namespace Json

/-- A field with the least key is put in front. -/
theorem insertField_of_lt {key : String} {value : Json} {fields : List (String × Json)}
    (h : ∀ k ∈ fields.map Prod.fst, key < k) :
    insertField key value fields = (key, value) :: fields := by
  cases fields with
  | nil => rfl
  | cons field more =>
      obtain ⟨k, v⟩ := field
      have hlt : key < k := h k List.mem_cons_self
      rw [insertField, if_pos hlt]

mutual

/-- **A canonical value is its own canonical form.** -/
theorem normalize_of_canonical (v : Json) (h : v.Canonical) : v.normalize = v := by
  match v with
  | .null | .bool _ | .number _ | .string _ => rfl
  | .array items =>
      rw [normalize, normalizeItems_of_canonical items h]
  | .object fields =>
      rw [normalize, normalizeFields_of_canonical fields h.1 h.2]

theorem normalizeItems_of_canonical (items : List Json) (h : CanonicalItems items) :
    normalizeItems items = items := by
  match items with
  | [] => rfl
  | item :: more =>
      rw [normalizeItems, normalize_of_canonical item h.1, normalizeItems_of_canonical more h.2]

theorem normalizeFields_of_canonical (fields : List (String × Json))
    (hkeys : (fields.map Prod.fst).Pairwise (· < ·)) (h : CanonicalFields fields) :
    normalizeFields fields = fields := by
  match fields with
  | [] => rfl
  | (key, value) :: more =>
      obtain ⟨hleast, hmore⟩ := List.pairwise_cons.mp hkeys
      rw [normalizeFields, normalize_of_canonical value h.1,
        normalizeFields_of_canonical more hmore h.2, insertField_of_lt hleast]

end

/-! ### Text of lists -/

theorem itemChars_eq (item : Json) (more : List Json) :
    List.intercalate [','] ((item :: more).map chars) ++ [']'] = item.chars ++ itemChars more := by
  induction more generalizing item with
  | nil =>
      rw [List.map_singleton, List.intercalate_singleton]
      rfl
  | cons next more ih =>
      rw [List.map_cons, List.map_cons, List.intercalate_cons_cons, ← List.map_cons,
        List.append_assoc, List.append_assoc, ih, itemChars]
      rfl

/-- An array is the list of its items between brackets. -/
theorem array_chars (items : List Json) :
    (array items).chars = '[' :: List.intercalate [','] (items.map chars) ++ [']'] := by
  cases items with
  | nil => rfl
  | cons item more =>
      rw [chars, List.cons_append, itemChars_eq]

/-- The text of a field. -/
def fieldOf (field : String × Json) : List Char := fieldText field.1 field.2.chars

theorem fieldChars_eq (field : String × Json) (more : List (String × Json)) :
    List.intercalate [','] ((field :: more).map fieldOf) ++ ['\x7d'] =
      fieldOf field ++ fieldChars more := by
  induction more generalizing field with
  | nil =>
      rw [List.map_singleton, List.intercalate_singleton]
      rfl
  | cons next more ih =>
      have hnext : fieldChars (next :: more) = ',' :: (fieldOf next ++ fieldChars more) := by
        rw [fieldChars, fieldOf, fieldText, List.append_assoc]
        rfl
      rw [List.map_cons, List.map_cons, List.intercalate_cons_cons, ← List.map_cons,
        List.append_assoc, List.append_assoc, ih, hnext]
      rfl

/-- An object is the list of its fields between braces. -/
theorem object_chars (fields : List (String × Json)) :
    (object fields).chars = objectText (fields.map fieldOf) := by
  cases fields with
  | nil => rfl
  | cons field more =>
      obtain ⟨key, value⟩ := field
      rw [objectText, List.cons_append, fieldChars_eq, chars, fieldOf, fieldText, List.append_assoc]
      rfl

end Json

/-! ### Records as values -/

/-- An extent as a JSON value; null if it does not fit in 64 bits. -/
def Shape.extentValue (extent : Nat) : Json :=
  (Json.Number.ofInt? extent).elim .null .number

theorem Json.Number.ofInt?_natCast {n : Nat} (h : n < Shape.countLimit) :
    ∃ wide : WideInt, wide.val = n ∧ ofInt? n = some (.int wide) := by
  have hfits : -0x8000000000000000 ≤ (n : Int) ∧ (n : Int) < 0x10000000000000000 := by
    unfold Shape.countLimit at h
    omega
  exact ⟨⟨n, hfits⟩, rfl, dif_pos hfits⟩

theorem Shape.extentValue_eq {extent : Nat} (h : extent < countLimit) :
    ∃ n : WideInt, n.val = extent ∧ extentValue extent = .number (.int n) := by
  obtain ⟨n, hval, hnumber⟩ := Json.Number.ofInt?_natCast h
  refine ⟨n, hval, ?_⟩
  rw [extentValue, hnumber, Option.elim_some]

/-- A shape as a JSON value. -/
def Shape.value (shape : Shape) : Json := .array (shape.map extentValue)

theorem Shape.chars_eq {shape : Shape} (h : ∀ extent ∈ shape, extent < countLimit) :
    shape.chars = shape.value.chars := by
  have hextents : shape.map (Nat.toDigits 10) = (shape.map extentValue).map Json.chars := by
    rw [List.map_map]
    apply List.map_congr_left
    intro extent hmem
    obtain ⟨n, hn, hvalue⟩ := extentValue_eq (h extent hmem)
    rw [Function.comp_apply, hvalue, Json.chars, Json.Number.chars, Json.Number.intChars, hn,
      if_neg (Int.not_lt.mpr (Int.natCast_nonneg extent)), Int.natAbs_natCast]
  rw [Shape.chars, hextents, value, Json.array_chars]

/-- The extents of a shape are read back. -/
theorem Shape.readShape_value {shape : Shape} (h : ∀ extent ∈ shape, extent < countLimit) :
    readShape shape.value = .ok shape := by
  show (shape.map extentValue).mapM readExtent = .ok shape
  induction shape with
  | nil => rfl
  | cons extent more ih =>
      obtain ⟨n, hn, hvalue⟩ := extentValue_eq (h extent List.mem_cons_self)
      have hextent : readExtent (extentValue extent) = .ok extent := by
        rw [hvalue, readExtent, hn, if_neg (Int.not_lt.mpr (Int.natCast_nonneg extent)),
          Int.toNat_natCast]
      rw [List.map_cons, List.mapM_cons, hextent,
        ih fun e he => h e (List.mem_cons_of_mem _ he)]
      rfl

theorem DType.ofTag?_tag (dtype : DType) : ofTag? dtype.tag = some dtype := by
  match dtype with
  | .object => rfl
  | .numeric .bool => rfl
  | .numeric (.integer range) => cases range <;> rfl
  | .numeric (.float format) => cases format <;> rfl

theorem readDType_tag (dtype : DType) : readDType (.string dtype.tag) = .ok dtype := by
  show Except.ok ((DType.ofTag? dtype.tag).getD .object) = _
  rw [DType.ofTag?_tag]
  rfl

theorem readOrder_tag (order : ByteOrder) : readOrder (.string order.tag) = .ok order := by
  cases order <;> rfl

namespace Record

/-- A record as a JSON value. -/
def value (r : Record) : Json :=
  .object [("type", .string r.kind), ("array", r.payload), ("order", .string r.order.tag),
    ("dtype", .string r.dtype.tag), ("shape", r.shape.value)]

theorem chars_eq {r : Record} (h : ∀ extent ∈ r.shape, extent < Shape.countLimit) :
    r.chars = r.value.chars := by
  rw [Record.chars, Shape.chars_eq h, value, Json.object_chars]
  rfl

/-- **The fields of a record are read back**, the payload in canonical form. -/
theorem read_value {r : Record} (h : ∀ extent ∈ r.shape, extent < Shape.countLimit)
    (exactly : Bool) :
    Record.read exactly r.value = .ok { r with payload := r.payload.normalize } := by
  have hshape := Shape.readShape_value h
  have horder := readOrder_tag r.order
  have hdtype := readDType_tag r.dtype
  simp only [value, Record.read, ofFields, Draft.put, Draft.fresh, hshape, horder, hdtype, readText,
    Draft.finish, Draft.required, Except.map, bind, Except.bind, pure, Except.pure]

/-- The text of a record reads as the record with its payload in canonical form. -/
theorem ofBytes_text_normalize (r : Record)
    (h : ∀ extent ∈ r.shape, extent < Shape.countLimit) :
    (Record.ofBytes (Text.bytes r.text)) = .ok { r with payload := r.payload.normalize } := by
  have htext : r.text = r.value.text := by rw [Record.text, chars_eq h, Json.text]
  have hvalue : Json.ofText64? r.text = some r.value := by
    rw [Json.ofText64?, htext, Json.readText_text]
  unfold Record.ofBytes
  rw [Text.ofBytes?_bytes]
  simp only [Option.bind_some, hvalue, read_value h]
  rfl

/-- **A record is read back from its text**: its kind, its payload at any depth, its byte order, its
type and its shape. -/
theorem ofBytes_text (r : Record) (hpayload : r.payload.Canonical)
    (hshape : ∀ extent ∈ r.shape, extent < Shape.countLimit) :
    Record.ofBytes (Text.bytes r.text) = .ok r := by
  rw [r.ofBytes_text_normalize hshape, Json.normalize_of_canonical r.payload hpayload]

/-- A record with quotes, a backslash, a control and a wide character in its strings, with lists and
objects in each other, and with the integer `1`, the float `1.0` and the negative zero. -/
theorem ofBytes_text_nested :
    let one : FiniteBinary64 := ⟨⟨false, 0x3ff0000000000000, by decide⟩, by decide⟩
    let zero : FiniteBinary64 := ⟨⟨true, 0, by decide⟩, by decide⟩
    let inner : Json := .object
      [("", .array [.number (.int ⟨1, by decide⟩), .number (.float one), .null]),
        ("\"\\\n", .object [("\x7f", .bool true), ("𝄞", .array [])]),
        ("a", .number (.float zero))]
    let r : Record :=
      ⟨"say \"no\"\t\x01", .array [inner, .object []], .bigEndian, .numeric (.float .double), [2, 0, 3]⟩
    Record.ofBytes (Text.bytes r.text) = .ok r := by
  intro one zero inner r
  have hinner : inner.Canonical := by
    simp only [inner, Json.Canonical, Json.CanonicalItems, Json.CanonicalFields, List.map_cons,
      List.map_nil, List.pairwise_cons, and_true, true_and]
    decide
  have hpayload : r.payload.Canonical := ⟨hinner, ⟨List.Pairwise.nil, trivial⟩, trivial⟩
  have hshape : ∀ extent ∈ r.shape, extent < Shape.countLimit := by decide
  exact ofBytes_text r hpayload hshape

end Record

end ArrayExchange
