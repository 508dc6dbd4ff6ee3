import ArrayExchange.Json.Printer
import ArrayExchange.Proofs.Json.Decimals

/-!
# JSON text there and back

The compact text of a value reads as the value itself, with all its nesting, and whether numbers are
counted exactly or in registers.  Reading takes the text of the value off the front and leaves what
follows; the induction runs over values, items and fields together.

* `Json.readString_chars` — escaping loses nothing.
* `Json.readValue_chars` — the invariant of the induction: twice the length of the text is enough work.
* `Json.readText_text` — the whole text of a value.
-/

namespace ArrayExchange

namespace Json

/-! ### Strings -/

/-- The hexadecimal digits of a control character. -/
theorem hexUnit?_control : ∀ n : Fin 32,
    hexUnit? '0' '0' (Nat.digitChar (n.val / 16)) (Nat.digitChar (n.val % 16)) = some n.val := by
  decide

/-- An escaped character is read back. -/
theorem readString_escapedChar (c : Char) (tail : List Char) :
    readString (escapedChar c ++ tail) = prepend c (readString tail) := by
  unfold escapedChar
  split
  · rfl
  · rfl
  · rfl
  · rfl
  · rfl
  · rfl
  · rfl
  · next hquote hbackslash _ _ _ _ _ =>
      split
      · next hcontrol =>
          have hunit := hexUnit?_control ⟨c.toNat, hcontrol⟩
          show readString ('\\' :: 'u' :: '0' :: '0' :: _ :: _ :: tail) = _
          rw [readString, hunit]
          dsimp only
          rw [if_neg (by omega), if_neg (by omega), Char.ofNat_toNat]
      · next hcontrol =>
          show readString (c :: tail) = _
          rw [readString.eq_def]
          split <;> simp_all

theorem readString_chars (s : List Char) (rest : List Char) :
    readString (s.flatMap escapedChar ++ '"' :: rest) = some (s, rest) := by
  induction s with
  | nil => rfl
  | cons c s ih =>
      rw [List.flatMap_cons, List.append_assoc, readString_escapedChar, ih]
      rfl

/-! ### Where values start and end -/

/-- Nothing is skipped in front of a character that is not a blank. -/
theorem skipBlanks_cons {c : Char} (h : isBlank c = false) (cs : List Char) :
    skipBlanks (c :: cs) = c :: cs :=
  List.dropWhile_cons_of_neg (by rw [h]; exact Bool.false_ne_true)

theorem isBlank_of_isDigit {c : Char} (h : c = '-' ∨ c.isDigit = true) :
    isBlank c = false ∧ c ≠ ']' := by
  rcases h with rfl | h
  · decide
  · constructor
    · simp only [isBlank, Bool.or_eq_false_iff, decide_eq_false_iff_not]
      refine ⟨⟨⟨?_, ?_⟩, ?_⟩, ?_⟩ <;> rintro rfl <;> exact Bool.false_ne_true h
    · rintro rfl
      exact Bool.false_ne_true h

/-- A value starts with a character that is neither a blank nor a closing bracket. -/
theorem chars_start (v : Json) :
    ∃ c cs, v.chars = c :: cs ∧ isBlank c = false ∧ c ≠ ']' := by
  cases v with
  | null => exact ⟨_, _, rfl, by decide, by decide⟩
  | bool b => cases b <;> exact ⟨_, _, rfl, by decide, by decide⟩
  | number n =>
      obtain ⟨c, cs, hchars, hc⟩ := n.chars_start
      exact ⟨c, cs, hchars, isBlank_of_isDigit hc⟩
  | string s => exact ⟨_, _, rfl, by decide, by decide⟩
  | array items => cases items <;> exact ⟨_, _, by rw [chars], by decide, by decide⟩
  | object fields =>
      cases fields with
      | nil => exact ⟨_, _, rfl, by decide, by decide⟩
      | cons field more => exact ⟨_, _, by rw [chars], by decide, by decide⟩

theorem follows_itemChars (items : List Json) (rest : List Char) :
    Follows (itemChars items ++ rest) := by
  cases items with
  | nil => exact follows_cons (.inr (.inl rfl)) _
  | cons item more => exact follows_cons (.inl rfl) _

theorem follows_fieldChars (fields : List (String × Json)) (rest : List Char) :
    Follows (fieldChars fields ++ rest) := by
  cases fields with
  | nil => exact follows_cons (.inr (.inr rfl)) _
  | cons field more => exact follows_cons (.inl rfl) _

/-! ### Values -/

variable {arithmetic : Arithmetic} {fuel : Nat} {rest : List Char}

theorem readValue_number (n : Number) (hr : Follows rest) :
    readValue arithmetic (fuel + 1) (n.chars ++ rest) = some (.number n, rest) := by
  have hread := readNumber_chars n arithmetic hr
  obtain ⟨c, cs, hchars, hc⟩ := n.chars_start
  rw [hchars, List.cons_append] at hread ⊢
  rw [readValue, skipBlanks_cons (isBlank_of_isDigit hc).1]
  -- the characters that open a value of another sort are no digits
  split
  case h_7 => rw [hread]; rfl
  all_goals
    next e =>
      cases (List.cons.inj e).1
      exact absurd hc (by decide)

theorem readValue_string (s : String) :
    readValue arithmetic (fuel + 1) (stringChars s ++ rest) = some (.string s, rest) := by
  have hread := readString_chars s.toList rest
  rw [readValue, stringChars, List.cons_append, skipBlanks_cons (by decide), List.append_assoc]
  show (readString (s.toList.flatMap escapedChar ++ '"' :: rest)).map _ = _
  rw [hread]
  show some (string (String.ofList s.toList), rest) = _
  rw [String.ofList_toList]

/-- A value without items and fields. -/
def Leaf : Json → Prop
  | array items => items = []
  | object fields => fields = []
  | _ => True

theorem readValue_leaf (v : Json) (hv : v.Leaf) (hfuel : 2 * v.chars.length ≤ fuel)
    (hr : Follows rest) : readValue arithmetic fuel (v.chars ++ rest) = some (v, rest) := by
  obtain ⟨fuel, rfl⟩ : ∃ k, fuel = k + 1 := by
    obtain ⟨c, cs, hchars, -⟩ := v.chars_start
    rw [hchars, List.length_cons] at hfuel
    exact ⟨fuel - 1, by omega⟩
  cases v with
  | null => exact hr.endToken null
  | bool b =>
      cases b with
      | true => exact hr.endToken (bool true)
      | false => exact hr.endToken (bool false)
  | number n => exact readValue_number n hr
  | string s => exact readValue_string s
  | array items =>
      obtain rfl : items = [] := hv
      rfl
  | object fields =>
      obtain rfl : fields = [] := hv
      rfl

theorem readValue_array {c : Char} {cs : List Char} {items : List Json} (hblank : isBlank c = false)
    (hne : c ≠ ']') (h : readItems arithmetic fuel (c :: cs) = some (items, rest)) :
    readValue arithmetic (fuel + 1) ('[' :: c :: cs) = some (.array items, rest) := by
  have hopen : isBlank '[' = false := by decide
  simp only [readValue, skipBlanks_cons hopen, skipBlanks_cons hblank]
  split
  · next e => exact absurd (List.cons.inj e).1 hne
  · rw [h]
    rfl

theorem readValue_object {cs : List Char} {fields : List (String × Json)}
    (h : readFields arithmetic fuel ('"' :: cs) = some (fields, rest)) :
    readValue arithmetic (fuel + 1) ('\x7b' :: '"' :: cs) = some (.object fields, rest) := by
  rw [readValue, skipBlanks_cons (by decide)]
  show (readFields arithmetic fuel ('"' :: cs)).map _ = _
  rw [h]
  rfl

/-! ### Items and fields -/

theorem readItems_last {cs : List Char} {item : Json}
    (h : readValue arithmetic fuel cs = some (item, ']' :: rest)) :
    readItems arithmetic (fuel + 1) cs = some ([item], rest) := by
  rw [readItems, h]
  rfl

theorem readItems_next {cs more : List Char} {item : Json} {items : List Json}
    (h : readValue arithmetic fuel cs = some (item, ',' :: more))
    (hmore : readItems arithmetic fuel more = some (items, rest)) :
    readItems arithmetic (fuel + 1) cs = some (item :: items, rest) := by
  rw [readItems, h]
  show (readItems arithmetic fuel more).map _ = _
  rw [hmore]
  rfl

/-- Behind the key of a field comes its value. -/
theorem readFields_key (key : String) (cs : List Char) :
    readFields arithmetic (fuel + 1) (stringChars key ++ ':' :: cs) =
      match readValue arithmetic fuel cs with
      | none => none
      | some (value, rest) =>
        match skipBlanks rest with
        | ',' :: rest =>
          (readFields arithmetic fuel rest).map fun (fields, rest) => ((key, value) :: fields, rest)
        | '\x7d' :: rest => some ([(key, value)], rest)
        | _ => none := by
  have hkey := readString_chars key.toList (':' :: cs)
  rw [readFields, stringChars, List.cons_append, skipBlanks_cons (by decide), List.append_assoc,
    List.singleton_append]
  split
  · next rest e =>
      cases e
      rw [hkey]
      dsimp only
      rw [String.ofList_toList]
      rfl
  · next h => exact absurd rfl (h _)

theorem readFields_last {key : String} {cs : List Char} {value : Json}
    (h : readValue arithmetic fuel cs = some (value, '\x7d' :: rest)) :
    readFields arithmetic (fuel + 1) (stringChars key ++ ':' :: cs) = some ([(key, value)], rest) := by
  rw [readFields_key, h]
  rfl

theorem readFields_next {key : String} {cs more : List Char} {value : Json}
    {fields : List (String × Json)} (h : readValue arithmetic fuel cs = some (value, ',' :: more))
    (hmore : readFields arithmetic fuel more = some (fields, rest)) :
    readFields arithmetic (fuel + 1) (stringChars key ++ ':' :: cs) =
      some ((key, value) :: fields, rest) := by
  rw [readFields_key, h]
  show (readFields arithmetic fuel more).map _ = _
  rw [hmore]
  rfl

/-! ### Values of any depth -/

mutual

/-- **A value is read back**, and what follows it is left. -/
theorem readValue_chars (v : Json) (fuel : Nat) (rest : List Char)
    (hfuel : 2 * v.chars.length ≤ fuel) (hr : Follows rest) :
    readValue arithmetic fuel (v.chars ++ rest) = some (v, rest) := by
  match v with
  | .array (item :: more) =>
      rw [chars] at hfuel ⊢
      rw [List.length_cons, List.length_append] at hfuel
      obtain ⟨fuel, rfl⟩ : ∃ k, fuel = k + 1 := ⟨fuel - 1, by omega⟩
      have hitems := readItems_chars item more fuel rest (by omega)
      obtain ⟨c, cs, hchars, hblank, hne⟩ := item.chars_start
      rw [hchars, List.cons_append] at hitems
      rw [hchars, List.cons_append, List.cons_append, List.cons_append, List.append_assoc]
      exact readValue_array hblank hne hitems
  | .object ((key, value) :: more) =>
      rw [chars] at hfuel ⊢
      rw [List.length_cons, List.length_append, List.length_cons, List.length_append] at hfuel
      obtain ⟨fuel, rfl⟩ : ∃ k, fuel = k + 1 := ⟨fuel - 1, by omega⟩
      have hfields := readFields_chars key value more fuel rest (by omega)
      rw [List.cons_append, List.append_assoc, List.cons_append, List.append_assoc]
      exact readValue_object hfields
  | .null | .bool _ | .number _ | .string _ => exact readValue_leaf _ trivial hfuel hr
  | .array [] | .object [] => exact readValue_leaf _ rfl hfuel hr
termination_by sizeOf v

/-- The items of an array are read back, the first one and all others. -/
theorem readItems_chars (item : Json) (more : List Json) (fuel : Nat) (rest : List Char)
    (hfuel : 2 * (item.chars.length + (itemChars more).length) ≤ fuel) :
    readItems arithmetic fuel (item.chars ++ (itemChars more ++ rest)) =
      some (item :: more, rest) := by
  match more with
  | [] =>
      obtain ⟨fuel, rfl⟩ : ∃ k, fuel = k + 1 :=
        ⟨fuel - 1, by simp only [itemChars, List.length_cons] at hfuel; omega⟩
      rw [itemChars, List.length_cons] at hfuel
      exact readItems_last
        (readValue_chars item fuel (']' :: rest) (by omega) (follows_itemChars [] rest))
  | next :: more =>
      obtain ⟨fuel, rfl⟩ : ∃ k, fuel = k + 1 :=
        ⟨fuel - 1, by simp only [itemChars, List.length_cons] at hfuel; omega⟩
      have hfollows := follows_itemChars (next :: more) rest
      rw [itemChars, List.length_cons, List.length_append] at hfuel
      rw [itemChars, List.cons_append, List.append_assoc] at hfollows ⊢
      exact readItems_next (readValue_chars item fuel _ (by omega) hfollows)
        (readItems_chars next more fuel rest (by omega))
termination_by sizeOf item + sizeOf more

/-- The fields of an object are read back, the first one and all others. -/
theorem readFields_chars (key : String) (value : Json) (more : List (String × Json)) (fuel : Nat)
    (rest : List Char)
    (hfuel : 2 * ((stringChars key).length + value.chars.length + (fieldChars more).length) ≤ fuel) :
    readFields arithmetic fuel
        (stringChars key ++ ':' :: (value.chars ++ (fieldChars more ++ rest))) =
      some ((key, value) :: more, rest) := by
  match more with
  | [] =>
      obtain ⟨fuel, rfl⟩ : ∃ k, fuel = k + 1 :=
        ⟨fuel - 1, by simp only [fieldChars, List.length_cons] at hfuel; omega⟩
      rw [fieldChars, List.length_cons] at hfuel
      exact readFields_last
        (readValue_chars value fuel ('\x7d' :: rest) (by omega) (follows_fieldChars [] rest))
  | (nextKey, next) :: more =>
      obtain ⟨fuel, rfl⟩ : ∃ k, fuel = k + 1 :=
        ⟨fuel - 1, by simp only [fieldChars, List.length_cons] at hfuel; omega⟩
      have hfollows := follows_fieldChars ((nextKey, next) :: more) rest
      rw [fieldChars, List.length_cons, List.length_append, List.length_cons,
        List.length_append] at hfuel
      rw [fieldChars, List.cons_append, List.append_assoc, List.cons_append,
        List.append_assoc] at hfollows ⊢
      exact readFields_next (readValue_chars value fuel _ (by omega) hfollows)
        (readFields_chars nextKey next more fuel rest (by omega))
termination_by sizeOf value + sizeOf more

end

/-! ### Whole texts -/

/-- **A value is read back from its text.** -/
theorem readText_text (arithmetic : Arithmetic) (v : Json) :
    Json.readText arithmetic v.text = some v := by
  have hread := @readValue_chars arithmetic v (2 * v.chars.length + 2) []
    (by omega) follows_nil
  rw [List.append_nil] at hread
  unfold Json.readText text
  rw [String.toList_ofList]
  dsimp only
  rw [hread]
  rfl

end Json

end ArrayExchange
