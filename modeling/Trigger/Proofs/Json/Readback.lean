import Trigger.Proofs.Json.Numbers

/-!
# Reading back what was written

Every value is written as a text that is read as one value, and no part of what comes behind it is
read. The value that is read has the strings and the keys of the one that was written, at the same
places; a value that JSON has no form for is read as the string that describes it.
-/

namespace Trigger.Json

variable {style : Style} {rest s : List Char} {fuel : Nat}

/-- What stands between the parts of a value is the mark for it and blanks. -/
structure Style.IsSpaced (style : Style) : Prop where
  comma : ∃ blanks, (∀ c ∈ blanks, isBlank c = true) ∧ style.comma = ',' :: blanks
  colon : ∃ blanks, (∀ c ∈ blanks, isBlank c = true) ∧ style.colon = ':' :: blanks

/-- The style of log lines. -/
theorem isSpaced_compact : Style.compact.IsSpaced := ⟨⟨[], by simp, rfl⟩, ⟨[], by simp, rfl⟩⟩

/-- The style of results. -/
theorem isSpaced_spaced : Style.spaced.IsSpaced :=
  ⟨⟨[' '], by simp [isBlank], rfl⟩, ⟨[' '], by simp [isBlank], rfl⟩⟩

mutual

/-- The value that is read where a value was written. -/
def decoded : Value → Value
  | .null => .null
  | .bool b => .bool b
  | .int i => .int i
  | .float x => .float (reread x)
  | .boxed ⟨.float64 x, _, _⟩ => .float (reread x)
  | .str s => .str s
  | .list _ items => .ofList (decodedItems items)
  | .map entries => .map (Fields.ofList (decodedEntries entries))
  | v => .str v.shown

/-- The items that are read where items were written. -/
def decodedItems : List Value → List Value
  | [] => []
  | v :: rest => decoded v :: decodedItems rest

/-- The entries that are read where entries were written. -/
def decodedEntries : List (String × Value) → List (String × Value)
  | [] => []
  | (k, v) :: rest => (k, decoded v) :: decodedEntries rest

end

/-- A value is read back, whatever comes behind it. -/
def ReadsBack (style : Style) (v : Value) : Prop :=
  ∀ rest fuel, Ends rest → (write style v).length ≤ fuel →
    readValue? fuel (write style v ++ rest) = some (decoded v, rest)

/-! ## Values without parts -/

/-- A text that starts with neither a quote nor an opening bracket is a word or a number. -/
theorem readValue?_scalar {c : Char} {cs : List Char} (hc : c ≠ '"' ∧ c ≠ '[' ∧ c ≠ '\x7b') :
    readValue? (fuel + 1) (c :: cs) = (readWord? (c :: cs)).or (readNumber? (c :: cs)) := by
  rw [readValue?]
  · exact fun rest h => hc.1 (List.cons.inj h).1
  · exact fun rest h => hc.2.1 (List.cons.inj h).1
  · exact fun rest h => hc.2.2 (List.cons.inj h).1

/-- What was written for a string is read back from behind its first quote. -/
theorem readString?_written (t rest : List Char) :
    readString? ((t.flatMap writeChar ++ '"' :: rest).length + 1)
      (t.flatMap writeChar ++ '"' :: rest) = some (t, rest) := by
  refine readString?_flatMap_writeChar t rest ?_
  have hle := length_le_flatMap_writeChar t
  rw [List.length_append]
  omega

/-- A string in quotes, taken apart. -/
theorem writeString_append (t rest : List Char) :
    writeString t ++ rest = '"' :: (t.flatMap writeChar ++ '"' :: rest) := by
  simp [writeString]

/-- A string is read back as a value. -/
theorem readValue?_writeString (t : List Char) (hfuel : 0 < fuel) :
    readValue? fuel (writeString t ++ rest) = some (.str (String.ofList t), rest) := by
  obtain ⟨fuel, rfl⟩ := Nat.exists_eq_succ_of_ne_zero (Nat.ne_of_gt hfuel)
  rw [writeString_append, readValue?, readString?_written]
  rfl

/-- The first character of a word or a number. -/
def StartsScalar (c : Char) : Prop := c.isDigit = true ∨ c = '-' ∨ c = 'N' ∨ c = 'I'

/-- Such a character starts nothing else. -/
theorem StartsScalar.ne {c d : Char} (h : StartsScalar c) (hd : d.isDigit = false)
    (hother : d ≠ '-' ∧ d ≠ 'N' ∧ d ≠ 'I') : c ≠ d := by
  rcases h with h | rfl | rfl | rfl
  · exact ne_of_isDigit h hd
  · exact hother.1.symm
  · exact hother.2.1.symm
  · exact hother.2.2.symm

/-- Such a character is no blank. -/
theorem StartsScalar.isBlank {c : Char} (h : StartsScalar c) : isBlank c = false := by
  have hne {d : Char} (hd : d.isDigit = false) (hother : d ≠ '-' ∧ d ≠ 'N' ∧ d ≠ 'I') :
      (c == d) = false := beq_eq_false_iff_ne.mpr (h.ne hd hother)
  rw [Json.isBlank, hne rfl (by decide), hne rfl (by decide), hne rfl (by decide),
    hne rfl (by decide)]
  rfl

/-- A text that starts so is read as a word or a number. -/
theorem readValue?_of_startsScalar {c : Char} {cs : List Char} (h : StartsScalar c)
    (hfuel : 0 < fuel) :
    readValue? fuel (c :: cs) = (readWord? (c :: cs)).or (readNumber? (c :: cs)) := by
  obtain ⟨fuel, rfl⟩ := Nat.exists_eq_succ_of_ne_zero (Nat.ne_of_gt hfuel)
  exact readValue?_scalar ⟨h.ne rfl (by decide), h.ne rfl (by decide), h.ne rfl (by decide)⟩

/-- A numeral starts with a digit or a sign. -/
theorem IsNumeral.exists_cons {whole fraction exponent : List Char}
    (h : IsNumeral whole fraction exponent) (negative : Bool) (rest : List Char) :
    ∃ c cs, StartsScalar c ∧ signed negative (whole ++ rest) = c :: cs := by
  obtain ⟨c, cs, rfl⟩ := List.exists_cons_of_ne_nil h.isDigits.ne_nil
  cases negative with
  | false => exact ⟨c, cs ++ rest, .inl (h.isDigits.isDigit c List.mem_cons_self), rfl⟩
  | true => exact ⟨'-', c :: cs ++ rest, .inr (.inl rfl), rfl⟩

/-- The text of an integer starts with a digit or a sign. -/
theorem exists_cons_int (i : Int) : ∃ c cs, StartsScalar c ∧ (toString i).toList = c :: cs := by
  rw [toString_eq_signed, ← List.append_nil (Nat.toDigits 10 i.natAbs)]
  exact (isNumeral_toDigits i.natAbs).exists_cons _ _

/-- The text of a floating-point number starts with a digit, a sign or the letter of a word. -/
theorem exists_cons_float (x : Float) : ∃ c cs, StartsScalar c ∧ writeFloat x = c :: cs := by
  rw [writeFloat]
  split
  · exact ⟨'N', _, .inr (.inr (.inl rfl)), rfl⟩
  rename_i hnan
  split
  · split
    · exact ⟨'-', _, .inr (.inl rfl), rfl⟩
    · exact ⟨'I', _, .inr (.inr (.inr rfl)), rfl⟩
  rename_i hinf
  obtain ⟨whole, fraction, exponent, htext, hnumeral, -⟩ :=
    exists_isNumeral_float (Bool.eq_false_iff.mpr hnan) (Bool.eq_false_iff.mpr hinf)
  rw [htext, List.append_assoc]
  exact hnumeral.exists_cons _ _

/-- An integer is read back. -/
theorem readsBack_int (i : Int) : ReadsBack style (.int i) := by
  intro rest fuel hrest hfuel
  obtain ⟨c, cs, hc, htext⟩ := exists_cons_int i
  have hread := read_int i hrest
  rw [write, htext] at hfuel
  rw [htext] at hread
  rw [write, htext, List.cons_append,
    readValue?_of_startsScalar hc (Nat.lt_of_lt_of_le (Nat.zero_lt_succ _) hfuel)]
  exact hread

/-- A floating-point number is read back. -/
theorem readValue?_float (x : Float) (hrest : Ends rest) (hfuel : (writeFloat x).length ≤ fuel) :
    readValue? fuel (writeFloat x ++ rest) = some (.float (reread x), rest) := by
  obtain ⟨c, cs, hc, htext⟩ := exists_cons_float x
  have hread := read_float x hrest
  rw [htext] at hread hfuel ⊢
  rw [List.cons_append,
    readValue?_of_startsScalar hc (Nat.lt_of_lt_of_le (Nat.zero_lt_succ _) hfuel)]
  exact hread

/-! ## Lists and mappings -/

/-- A value starts with no blank and no closing bracket. -/
theorem exists_cons_write (style : Style) (v : Value) :
    ∃ c cs, (isBlank c = false ∧ c ≠ ']' ∧ c ≠ '\x7d') ∧ write style v = c :: cs := by
  have hscalar {s : List Char} (h : ∃ c cs, StartsScalar c ∧ s = c :: cs) :
      ∃ c cs, (isBlank c = false ∧ c ≠ ']' ∧ c ≠ '\x7d') ∧ s = c :: cs := by
    obtain ⟨c, cs, hc, rfl⟩ := h
    exact ⟨c, cs, ⟨hc.isBlank, hc.ne rfl (by decide), hc.ne rfl (by decide)⟩, rfl⟩
  have hstring (t : List Char) : ∃ c cs, (isBlank c = false ∧ c ≠ ']' ∧ c ≠ '\x7d') ∧
      writeString t = c :: cs := ⟨'"', _, by decide, rfl⟩
  fun_cases write style v with
  | case1 => exact ⟨'n', _, by decide, rfl⟩
  | case2 b => cases b <;> exact ⟨_, _, by decide, rfl⟩
  | case3 i => exact hscalar (exists_cons_int i)
  | case4 x | case5 x => exact hscalar (exists_cons_float x)
  | case6 s => exact hstring s.toList
  | case7 kind items => exact ⟨'[', _, by decide, rfl⟩
  | case8 entries => exact ⟨'\x7b', _, by decide, rfl⟩
  | case9 => exact hstring _

/-- Blanks in front of a value are passed over. -/
theorem skipBlanks_append_write {blanks : List Char} (hblanks : ∀ c ∈ blanks, isBlank c = true)
    (v : Value) (rest : List Char) :
    skipBlanks (blanks ++ (write style v ++ rest)) = write style v ++ rest := by
  obtain ⟨c, cs, ⟨hc, -⟩, htext⟩ := exists_cons_write style v
  rw [skipBlanks, List.dropWhile_append_of_pos hblanks, htext, List.cons_append,
    List.dropWhile_cons_of_neg (by simp [hc])]

/-- A character that is no blank is not passed over. -/
theorem skipBlanks_cons {c : Char} (hc : isBlank c = false) (rest : List Char) :
    skipBlanks (c :: rest) = c :: rest := List.dropWhile_cons_of_neg (by simp [hc])

/-- A value is read back if it is whatever comes behind it. -/
theorem readsBack_of_succ {v : Value} (hlength : 0 < (write style v).length)
    (h : ∀ rest fuel, readValue? (fuel + 1) (write style v ++ rest) = some (decoded v, rest)) :
    ReadsBack style v := by
  intro rest fuel hrest hfuel
  obtain ⟨fuel, rfl⟩ :=
    Nat.exists_eq_succ_of_ne_zero (Nat.ne_of_gt (Nat.lt_of_lt_of_le hlength hfuel))
  exact h rest fuel

/-- A value that JSON has no form for is read back as its description. -/
theorem readsBack_foreign {v : Value} (hwrite : write style v = writeForeign v)
    (hdecoded : decoded v = .str v.shown) : ReadsBack style v := by
  intro rest fuel hrest hfuel
  rw [hwrite] at hfuel ⊢
  rw [writeForeign, readValue?_writeString _ (Nat.lt_of_lt_of_le (Nat.zero_lt_succ _) hfuel),
    String.ofList_toList, hdecoded]

/-- More than one item. -/
theorem writeItems_cons (style : Style) (v w : Value) (more : List Value) :
    writeItems style (v :: w :: more) =
      write style v ++ style.comma ++ writeItems style (w :: more) := rfl

/-- More than one entry. -/
theorem writeEntries_cons (style : Style) (k : String) (v : Value) (e : String × Value)
    (more : List (String × Value)) :
    writeEntries style ((k, v) :: e :: more) = writeString k.toList ++ style.colon ++
      write style v ++ style.comma ++ writeEntries style (e :: more) := rfl

/-- Items start with a value. -/
theorem exists_writeItems (style : Style) (v : Value) (items : List Value) :
    ∃ s, writeItems style (v :: items) = write style v ++ s := by
  cases items with
  | nil => exact ⟨[], (List.append_nil _).symm⟩
  | cons w more => exact ⟨_, by rw [writeItems_cons, List.append_assoc]⟩

/-- Entries start with a key and the mark behind it. -/
theorem exists_writeEntries (style : Style) (k : String) (v : Value)
    (entries : List (String × Value)) :
    ∃ s, writeEntries style ((k, v) :: entries) = writeString k.toList ++ s := by
  cases entries with
  | nil => exact ⟨_, by rw [writeEntries, List.append_assoc]⟩
  | cons e more => exact ⟨_, by rw [writeEntries_cons]; simp only [List.append_assoc]; rfl⟩

/-- A comma, a bracket or a brace comes behind a value. -/
theorem ends_cons {c : Char} (hc : c = ',' ∨ c = ']' ∨ c = '\x7d') (rest : List Char) :
    Ends (c :: rest) := fun _ hd => Option.some.inj hd ▸ hc

/-- A list that is not empty is read item by item. -/
theorem readValue?_list {c : Char} {cs : List Char} (hc : isBlank c = false ∧ c ≠ ']') :
    readValue? (fuel + 1) ('[' :: c :: cs) =
      (readItems? fuel (c :: cs)).map fun r => (.ofList r.1, r.2) := by
  rw [readValue?, skipBlanks_cons hc.1]
  split
  · rename_i heq
    exact absurd (List.cons.inj heq).1 hc.2
  · cases readItems? fuel (c :: cs) <;> rfl

/-- A mapping that is not empty is read entry by entry. -/
theorem readValue?_map {c : Char} {cs : List Char} (hc : isBlank c = false ∧ c ≠ '\x7d') :
    readValue? (fuel + 1) ('\x7b' :: c :: cs) =
      (readEntries? fuel (c :: cs)).map fun r => (.map (Fields.ofList r.1), r.2) := by
  rw [readValue?, skipBlanks_cons hc.1]
  split
  · rename_i heq
    exact absurd (List.cons.inj heq).1 hc.2
  · cases readEntries? fuel (c :: cs) <;> rfl

mutual

/-- Every value is read back. -/
theorem readsBack (h : style.IsSpaced) : ∀ v : Value, ReadsBack style v
  | .null => readsBack_of_succ (Nat.zero_lt_succ _) fun _ _ => rfl
  | .bool true => readsBack_of_succ (Nat.zero_lt_succ _) fun _ _ => rfl
  | .bool false => readsBack_of_succ (Nat.zero_lt_succ _) fun _ _ => rfl
  | .int i => readsBack_int i
  | .float x | .boxed ⟨.float64 x, _, _⟩ => fun rest fuel hrest hfuel => readValue?_float x hrest hfuel
  | .str s => fun rest fuel hrest hfuel => by
    rw [write] at hfuel ⊢
    rw [readValue?_writeString _ (Nat.lt_of_lt_of_le (Nat.zero_lt_succ _) hfuel),
      String.ofList_toList, decoded]
  | .list kind [] => readsBack_of_succ (Nat.zero_lt_succ _) fun _ _ => rfl
  | .list kind (v :: items) => fun rest fuel hrest hfuel => by
    obtain ⟨s, hs⟩ := exists_writeItems style v items
    obtain ⟨c, cs, ⟨hc, hbracket, -⟩, htext⟩ := exists_cons_write style v
    rw [write, List.length_append, List.length_cons] at hfuel
    obtain ⟨fuel, rfl⟩ := Nat.exists_eq_succ_of_ne_zero (n := fuel) (by omega)
    have hread := readItems?_writeItems h rest (v :: items) fuel (by simp)
      (by simp only [List.length_singleton] at hfuel; omega)
    rw [write, List.append_assoc, List.cons_append, List.singleton_append]
    rw [hs, htext, List.cons_append, List.cons_append] at hread ⊢
    rw [readValue?_list ⟨hc, hbracket⟩, hread, decoded]
    rfl
  | .map [] => readsBack_of_succ (Nat.zero_lt_succ _) fun _ _ => rfl
  | .map ((k, v) :: entries) => fun rest fuel hrest hfuel => by
    obtain ⟨s, hs⟩ := exists_writeEntries style k v entries
    rw [write, List.length_append, List.length_cons] at hfuel
    obtain ⟨fuel, rfl⟩ := Nat.exists_eq_succ_of_ne_zero (n := fuel) (by omega)
    have hread := readEntries?_writeEntries h rest ((k, v) :: entries) fuel (by simp)
      (by simp only [List.length_singleton] at hfuel; omega)
    rw [write, List.append_assoc, List.cons_append, List.singleton_append]
    rw [hs, List.append_assoc, writeString_append] at hread ⊢
    rw [readValue?_map ⟨rfl, by decide⟩, hread, decoded]
    rfl
  | .undefined | .object _ | .pattern _ | .native .. | .query .. | .builtin .. | .global _ | .host _
  | .arrow .. | .boxed ⟨.int64 _, _, _⟩ | .boxed ⟨.uint8 _, _, _⟩ | .boxed ⟨.float32 _, _, _⟩
  | .boxed ⟨.bool _, _, _⟩ =>
    readsBack_foreign rfl rfl

/-- Items are read back up to the closing bracket. -/
theorem readItems?_writeItems (h : style.IsSpaced) (rest : List Char) :
    ∀ (items : List Value) (fuel : Nat), items ≠ [] → (writeItems style items).length < fuel →
      readItems? fuel (writeItems style items ++ ']' :: rest) = some (decodedItems items, rest)
  | [], _, hne, _ => absurd rfl hne
  | _ :: _, 0, _, hfuel => absurd hfuel (Nat.not_lt_zero _)
  | [v], fuel + 1, _, hfuel => by
    have hread := readsBack h v (']' :: rest) fuel (ends_cons (by simp) rest)
      (Nat.le_of_lt_succ hfuel)
    rw [readItems?, writeItems, hread]
    rfl
  | v :: w :: more, fuel + 1, _, hfuel => by
    obtain ⟨blanks, hblanks, hcomma⟩ := h.comma
    obtain ⟨s, hs⟩ := exists_writeItems style w more
    rw [writeItems_cons, hcomma] at hfuel ⊢
    rw [List.length_append, List.length_append, List.length_cons] at hfuel
    have hread := readsBack h v (',' :: (blanks ++ (writeItems style (w :: more) ++ ']' :: rest)))
      fuel (ends_cons (by simp) _) (by omega)
    have hmore := readItems?_writeItems h rest (w :: more) fuel (by simp) (by omega)
    have hskip : skipBlanks (blanks ++ (writeItems style (w :: more) ++ ']' :: rest)) =
        writeItems style (w :: more) ++ ']' :: rest := by
      rw [hs, List.append_assoc, skipBlanks_append_write hblanks]
    simp only [List.append_assoc, List.cons_append]
    rw [readItems?, hread]
    simp only [Option.bind_eq_bind, Option.bind_some, skipBlanks_cons (c := ',') rfl, hskip, hmore]
    rfl

/-- Entries are read back up to the closing brace. -/
theorem readEntries?_writeEntries (h : style.IsSpaced) (rest : List Char) :
    ∀ (entries : List (String × Value)) (fuel : Nat), entries ≠ [] →
      (writeEntries style entries).length < fuel →
      readEntries? fuel (writeEntries style entries ++ '\x7d' :: rest) =
        some (decodedEntries entries, rest)
  | [], _, hne, _ => absurd rfl hne
  | _ :: _, 0, _, hfuel => absurd hfuel (Nat.not_lt_zero _)
  | [(k, v)], fuel + 1, _, hfuel => by
    obtain ⟨blanks, hblanks, hcolon⟩ := h.colon
    rw [writeEntries, hcolon] at hfuel ⊢
    rw [List.length_append, List.length_append, List.length_cons] at hfuel
    have hread := readsBack h v ('\x7d' :: rest) fuel (ends_cons (by simp) rest) (by omega)
    simp only [List.append_assoc, List.cons_append]
    rw [writeString_append, readEntries?]
    simp only [readString?_written, Option.bind_eq_bind, Option.bind_some,
      skipBlanks_cons (c := ':') rfl, skipBlanks_append_write hblanks, hread]
    rw [String.ofList_toList]
    rfl
  | (k, v) :: (l, w) :: more, fuel + 1, _, hfuel => by
    obtain ⟨blanks, hblanks, hcolon⟩ := h.colon
    obtain ⟨blanks', hblanks', hcomma⟩ := h.comma
    obtain ⟨s, hs⟩ := exists_writeEntries style l w more
    rw [writeEntries_cons, hcolon, hcomma] at hfuel ⊢
    simp only [List.length_append, List.length_cons] at hfuel
    have hread := readsBack h v
      (',' :: (blanks' ++ (writeEntries style ((l, w) :: more) ++ '\x7d' :: rest))) fuel
      (ends_cons (by simp) _) (by omega)
    have hmore := readEntries?_writeEntries h rest ((l, w) :: more) fuel (by simp) (by omega)
    have hskip : skipBlanks (blanks' ++ (writeEntries style ((l, w) :: more) ++ '\x7d' :: rest)) =
        writeEntries style ((l, w) :: more) ++ '\x7d' :: rest := by
      rw [hs, List.append_assoc, skipBlanks, List.dropWhile_append_of_pos hblanks',
        writeString_append]
      rfl
    simp only [List.append_assoc, List.cons_append]
    rw [writeString_append, readEntries?]
    simp only [readString?_written, Option.bind_eq_bind, Option.bind_some,
      skipBlanks_cons (c := ':') rfl, skipBlanks_append_write hblanks, hread,
      skipBlanks_cons (c := ',') rfl, hskip, hmore]
    rw [String.ofList_toList]
    rfl

end

/-- The text of a value is read as the value that stands for it. -/
theorem read?_write (h : style.IsSpaced) (v : Value) :
    read? (String.ofList (write style v)) = some (decoded v) := by
  have hread := readsBack h v [] ((write style v).length + 1) (fun _ hc => nomatch hc)
    (Nat.le_succ _)
  have hskip : skipBlanks (write style v) = write style v := by
    have hnone : skipBlanks ([] ++ (write style v ++ [])) = write style v ++ [] :=
      skipBlanks_append_write (fun _ hc => absurd hc List.not_mem_nil) v []
    rwa [List.nil_append, List.append_nil] at hnone
  rw [List.append_nil] at hread
  simp only [read?, String.toList_ofList, hskip, hread, Option.bind_eq_bind, Option.bind_some]
  rfl

/-! ## One line -/

mutual

/-- A value is written on one line if the marks between its parts are. -/
theorem isLine_write (hcomma : IsLine style.comma) (hcolon : IsLine style.colon) :
    ∀ v : Value, IsLine (write style v)
  | .null | .bool true | .bool false => by simp [write, IsLine]
  | .int i => isLine_int i
  | .float x | .boxed ⟨.float64 x, _, _⟩ => isLine_writeFloat x
  | .str s => isLine_writeString s.toList
  | .list kind items => by
    have hitems := isLine_writeItems hcomma hcolon items
    have hopen := isLine_cons.mpr ⟨(by decide : ' ' ≤ '[' ∧ '[' ≤ '~'), hitems⟩
    exact isLine_append.mpr ⟨hopen, isLine_cons.mpr ⟨by decide, isLine_nil⟩⟩
  | .map entries => by
    have hentries := isLine_writeEntries hcomma hcolon entries
    have hopen := isLine_cons.mpr ⟨(by decide : ' ' ≤ '\x7b' ∧ '\x7b' ≤ '~'), hentries⟩
    exact isLine_append.mpr ⟨hopen, isLine_cons.mpr ⟨by decide, isLine_nil⟩⟩
  | .undefined | .object _ | .pattern _ | .native .. | .query .. | .builtin .. | .global _ | .host _
  | .arrow .. | .boxed ⟨.int64 _, _, _⟩ | .boxed ⟨.uint8 _, _, _⟩ | .boxed ⟨.float32 _, _, _⟩
  | .boxed ⟨.bool _, _, _⟩ =>
    isLine_writeString _

/-- Items are written on one line. -/
theorem isLine_writeItems (hcomma : IsLine style.comma) (hcolon : IsLine style.colon) :
    ∀ items : List Value, IsLine (writeItems style items)
  | [] => isLine_nil
  | [v] => isLine_write hcomma hcolon v
  | v :: w :: more => isLine_append.mpr
    ⟨isLine_append.mpr ⟨isLine_write hcomma hcolon v, hcomma⟩,
      isLine_writeItems hcomma hcolon (w :: more)⟩

/-- Entries are written on one line. -/
theorem isLine_writeEntries (hcomma : IsLine style.comma) (hcolon : IsLine style.colon) :
    ∀ entries : List (String × Value), IsLine (writeEntries style entries)
  | [] => isLine_nil
  | [(k, v)] => isLine_append.mpr ⟨isLine_append.mpr ⟨isLine_writeString _, hcolon⟩,
      isLine_write hcomma hcolon v⟩
  | (k, v) :: e :: more => by
    have hentry : IsLine (writeString k.toList ++ style.colon ++ write style v) :=
      isLine_append.mpr ⟨isLine_append.mpr ⟨isLine_writeString _, hcolon⟩,
        isLine_write hcomma hcolon v⟩
    exact isLine_append.mpr ⟨isLine_append.mpr ⟨hentry, hcomma⟩,
      isLine_writeEntries hcomma hcolon (e :: more)⟩

end

end Trigger.Json
