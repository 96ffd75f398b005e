import Trigger.Proofs.Story.Notes

/-!
# The story as a plain scan

The story in a context is what stands behind the first header up to the first marker behind it, or
up to the end. The pattern passes over white space behind the header and stops in front of a line
feed at the end; neither matters, since white space around the story is trimmed off.
-/

namespace Trigger.Story

open Text Pattern

/-- A context cut at its first header and at the first marker behind that: the story is the body. -/
structure Extract (text before header body after : List Char) : Prop where
  split : text = before ++ header ++ (body ++ after)
  isHeader : IsHeader header
  firstHeader : ∀ p h r, text = p ++ h ++ r → IsHeader h → before.length ≤ p.length
  stops : after = [] ∨ ∃ m, IsMarker m ∧ m <+: after
  firstMarker : ∀ p m r, body ++ after = p ++ m ++ r → IsMarker m → body.length ≤ p.length

variable {text before header body after m s : List Char}

/-! ## Markers and headers -/

/-- A marker has no white space in it. -/
theorem IsMarker.not_isSpace (h : IsMarker m) : ∀ c ∈ m, isSpace c = false := by
  rcases h with h | h <;> exact not_isSpace_of_sameLetters h (by decide)

/-- A marker starts with a sign of its own. -/
theorem IsMarker.exists_cons (h : IsMarker m) : ∃ s, m = '%' :: s := by
  obtain _ | ⟨c, m⟩ := m
  · rcases h with h | h <;> cases h
  · have hletter : sameLetter '%' c = true := by
      rcases h with h | h <;> exact ((Bool.and_eq_true _ _).mp h).1
    rw [sameLetter_mark_iff (by decide)] at hletter
    exact ⟨m, by rw [hletter]⟩

/-- A marker has characters. -/
theorem IsMarker.ne_nil (h : IsMarker m) : m ≠ [] := by
  obtain ⟨s, rfl⟩ := h.exists_cons
  exact List.cons_ne_nil _ s

/-- A header starts with its first letter. -/
theorem IsHeader.exists_cons (h : IsHeader header) :
    ∃ c s, header = c :: s ∧ sameLetter 'R' c = true := by
  obtain @⟨_ | ⟨c, first⟩, gap, second, gap', hfirst, -, -, -⟩ := h
  · cases hfirst
  · exact ⟨c, _, rfl, ((Bool.and_eq_true _ _).mp hfirst).1⟩

/-! ## Cutting a context -/

/-- A text is white space and then a text that does not start with any. -/
theorem exists_gap (s : List Char) :
    ∃ gap rest, Blank gap ∧ (∀ c ∈ rest.head?, isSpace c = false) ∧ s = gap ++ rest := by
  refine ⟨s.takeWhile isSpace, s.dropWhile isSpace, fun c hc => List.mem_takeWhile_imp hc,
    fun c hc => ?_, List.takeWhile_append_dropWhile.symm⟩
  have hnot := List.head?_dropWhile_not isSpace s
  rw [hc] at hnot
  exact hnot

/-- Of the places where texts of a kind stand there is a first one. -/
theorem exists_first {P : List Char → Prop} (h : ∃ m, P m ∧ m <:+: s) :
    ∃ p m r, s = p ++ m ++ r ∧ P m ∧ ∀ p' m' r', s = p' ++ m' ++ r' → P m' → p.length ≤ p'.length := by
  induction s with
  | nil =>
    obtain ⟨m, hm, hinfix⟩ := h
    obtain rfl := List.infix_nil.mp hinfix
    exact ⟨[], [], [], rfl, hm, fun _ _ _ _ _ => Nat.zero_le _⟩
  | cons c s ih =>
    by_cases hhere : ∃ m, P m ∧ m <+: c :: s
    · obtain ⟨m, hm, r, hr⟩ := hhere
      exact ⟨[], m, r, hr.symm, hm, fun _ _ _ _ _ => Nat.zero_le _⟩
    · obtain ⟨m, hm, hinfix⟩ := h
      have hbehind : m <:+: s :=
        (List.infix_cons_iff.mp hinfix).resolve_left fun hprefix => hhere ⟨m, hm, hprefix⟩
      obtain ⟨p, m, r, rfl, hm, hfirst⟩ := ih ⟨m, hm, hbehind⟩
      refine ⟨c :: p, m, r, rfl, hm, fun p' m' r' hsplit hm' => ?_⟩
      obtain _ | ⟨d, p'⟩ := p'
      · exact absurd ⟨m', hm', r', hsplit.symm⟩ hhere
      · exact Nat.succ_le_succ (hfirst p' m' r' (List.cons.inj hsplit).2 hm')

/-- A context with a header can be cut. -/
theorem exists_extract (h : ∃ header, IsHeader header ∧ header <:+: text) :
    ∃ before header body after, Extract text before header body after := by
  obtain ⟨before, header, rest, hsplit, hheader, hfirst⟩ := exists_first h
  by_cases hmarker : ∃ m, IsMarker m ∧ m <:+: rest
  · obtain ⟨body, m, r, rfl, hm, hfirstMarker⟩ := exists_first hmarker
    refine ⟨before, header, body, m ++ r, by rw [hsplit, List.append_assoc body], hheader, hfirst,
      .inr ⟨m, hm, List.prefix_append m r⟩, fun p m' r' hp hm' => ?_⟩
    exact hfirstMarker p m' r' (by rw [List.append_assoc, hp]) hm'
  · refine ⟨before, header, rest, [], by rw [hsplit, List.append_nil], hheader, hfirst, .inl rfl,
      fun p m r hp hm => absurd ⟨m, hm, p, r, ?_⟩ hmarker⟩
    rw [← hp, List.append_nil]

namespace Extract

/-- What stands behind the header. -/
theorem drop (h : Extract text before header body after) (n : Nat) :
    text.drop (before.length + header.length + n) = (body ++ after).drop n := by
  rw [← List.length_append, ← List.drop_drop, h.split, List.drop_left]

/-- No marker stands in front of the end of the body. -/
theorem not_stands (h : Extract text before header body after) (hm : IsMarker m) {n : Nat}
    (hn : n < body.length) : ¬Stands text (before.length + header.length + n) m := by
  rintro ⟨r, hr⟩
  rw [h.drop] at hr
  have hfirst := h.firstMarker ((body ++ after).take n) m r
    (by rw [List.append_assoc, hr, List.take_append_drop]) hm
  rw [List.length_take] at hfirst
  omega

/-- A marker stands in no body. -/
theorem not_infix_body (h : Extract text before header body after) (hm : IsMarker m) :
    ¬m <:+: body := by
  rintro ⟨p, r, hsplit⟩
  have hfirst := h.firstMarker p m (r ++ after)
    (by rw [← hsplit, List.append_assoc (p ++ m)]) hm
  have hpositive := List.length_pos_iff.mpr hm.ne_nil
  rw [← hsplit, List.length_append, List.length_append] at hfirst
  omega

/-- The length of a context. -/
theorem length_eq (h : Extract text before header body after) :
    text.length = before.length + header.length + (body.length + after.length) := by
  rw [h.split]
  simp only [List.length_append]

/-- The story ends at the end of the body, and in front of a line feed that ends the text. -/
theorem endsAt_iff (h : Extract text before header body after) {n : Nat} (hn : n ≤ body.length) :
    EndsAt text (before.length + header.length + n) ↔
      n = body.length ∨ (after = [] ∧ body.drop n = ['\n']) := by
  have hlength := h.length_eq
  have hhead := List.head?_drop (l := text) (i := before.length + header.length + n)
  rw [h.drop] at hhead
  constructor
  · rintro (⟨m, hm, hstands⟩ | hend | ⟨hfeed, hend⟩)
    · exact .inl (Nat.le_antisymm hn (Nat.le_of_not_lt fun hlt => h.not_stands hm hlt hstands))
    · exact .inl (by omega)
    · rcases Nat.eq_or_lt_of_le hn with heq | hlt
      · exact .inl heq
      · obtain rfl : after = [] := List.length_eq_zero_iff.mp (by omega)
        refine .inr ⟨rfl, ?_⟩
        rw [List.append_nil, hfeed] at hhead
        obtain ⟨rest, hrest⟩ := List.head?_eq_some_iff.mp hhead
        have hone : (body.drop n).length = 1 := by
          rw [List.length_drop]
          rw [List.length_nil] at hlength
          omega
        rw [hrest, List.length_cons] at hone
        rw [hrest, List.length_eq_zero_iff.mp (Nat.succ_inj.mp hone)]
  · rintro (rfl | ⟨rfl, hfeed⟩)
    · rcases h.stops with rfl | ⟨m, hm, hprefix⟩
      · exact .inr (.inl (by rw [hlength, List.length_nil, Nat.add_zero]))
      · refine .inl ⟨m, hm, ?_⟩
        rw [Stands, h.drop, List.drop_left]
        exact hprefix
    · rw [List.append_nil, hfeed] at hhead
      refine .inr (.inr ⟨hhead.symm, ?_⟩)
      have hone := congrArg List.length hfeed
      rw [List.length_drop, List.length_singleton] at hone
      rw [List.length_nil] at hlength
      omega

/-- No position in front of the first header has a match. -/
theorem matchAt?_eq_none (h : Extract text before header body after) {q : Nat}
    (hq : q < before.length) : storyPattern.matchAt? text.toArray false q = none := by
  cases hmatch : storyPattern.matchAt? text.toArray false q with
  | none => rfl
  | some m =>
    obtain ⟨header', hheader, r, hr⟩ := exists_header_of_matchAt? hmatch
    have hfirst := h.firstHeader (text.take q) header' r
      (by rw [List.append_assoc, hr, List.take_append_drop]) hheader
    rw [List.length_take] at hfirst
    omega

/-- No white space stands right behind the body. -/
theorem not_isSpace_after (h : Extract text before header body after) :
    ∀ c ∈ after.head?, isSpace c = false := by
  rcases h.stops with rfl | ⟨m, hm, r, rfl⟩
  · exact fun c hc => nomatch hc
  · obtain ⟨s, rfl⟩ := hm.exists_cons
    rintro c ⟨⟩
    decide

/-- The pattern captures what stands behind the white space at the start of the body, up to the
first place where the story ends. -/
theorem captured?_eq {gap story tail : List Char}
    (h : Extract text before header (gap ++ story ++ tail) after) (hgap : Blank gap)
    (hstart : ∀ c ∈ (story ++ tail ++ after).head?, isSpace c = false)
    (hbefore : ∀ i < story.length, ¬EndsAt text (before.length + header.length + (gap.length + i)))
    (hend : EndsAt text (before.length + header.length + (gap.length + story.length))) :
    captured? text.toArray = some story := by
  have hbehind := h.drop 0
  rw [Nat.add_zero, List.drop_zero] at hbehind
  have hheader : Stands text before.length header := by
    rw [h.split]
    exact .of_split before header _
  have hbody : Stands text (before.length + header.length) (gap ++ story) := by
    rw [Stands, hbehind, List.append_assoc (gap ++ story)]
    exact List.prefix_append _ _
  obtain ⟨hgapAt, hstory⟩ := Stands.append_iff.mp hbody
  have hnext : ∀ c ∈ text[before.length + header.length + gap.length]?, isSpace c = false := by
    rw [← List.head?_drop, h.drop, List.append_assoc, List.append_assoc, List.drop_left,
      ← List.append_assoc]
    exact hstart
  simp only [← Nat.add_assoc] at hbefore hend
  have hmatch := matchAt?_storyPattern h.isHeader hheader hgapAt hgap hnext hstory hbefore hend
  have hsize : before.length ≤ text.toArray.size := by
    rw [List.size_toArray, h.length_eq]
    omega
  rw [captured?, searchFrom?_eq_some (Nat.zero_le _) hsize hmatch
    fun q _ hq => h.matchAt?_eq_none hq]
  exact congrArg some (slice_of_stands hstory)

/-- The body is white space, what the pattern captures, and white space again. -/
theorem exists_captured (h : Extract text before header body after) :
    ∃ gap story tail, Blank gap ∧ Blank tail ∧ body = gap ++ story ++ tail ∧
      captured? text.toArray = some story := by
  obtain ⟨gap, rest, hgap, hrest, rfl⟩ := exists_gap body
  have hstart : ∀ c ∈ (rest ++ after).head?, isSpace c = false := by
    cases rest with
    | nil => exact h.not_isSpace_after
    | cons d rest => exact hrest
  by_cases hfinal : after = [] ∧ ∃ story, rest = story ++ ['\n']
  -- the line feed at the end is left out
  · obtain ⟨rfl, story, rfl⟩ := hfinal
    rw [← List.append_assoc] at h
    have hlength : (gap ++ story ++ ['\n']).length = gap.length + story.length + 1 := by
      rw [List.length_append, List.length_append, List.length_singleton]
    have hfeed : Blank ['\n'] := List.forall_mem_singleton.mpr (by decide)
    refine ⟨gap, story, ['\n'], hgap, hfeed, (List.append_assoc _ _ _).symm,
      h.captured?_eq hgap hstart (fun i hi hends => ?_) ?_⟩
    · rcases (h.endsAt_iff (by omega)).mp hends with heq | ⟨-, hfeed⟩
      · omega
      · have hone := congrArg List.length hfeed
        rw [List.length_drop, List.length_singleton] at hone
        omega
    · refine (h.endsAt_iff (by omega)).mpr (.inr ⟨rfl, ?_⟩)
      rw [← List.length_append, List.drop_left]
  -- otherwise everything up to the end of the body is captured
  · rw [← List.append_nil (gap ++ rest)] at h
    have hlength : (gap ++ rest ++ []).length = gap.length + rest.length := by simp
    refine ⟨gap, rest, [], hgap, List.forall_mem_nil _, (List.append_nil _).symm,
      h.captured?_eq hgap (by rwa [List.append_nil]) (fun i hi hends => ?_) ?_⟩
    · rcases (h.endsAt_iff (by omega)).mp hends with heq | ⟨hafter, hfeed⟩
      · omega
      · rw [List.append_nil, List.drop_append, List.drop_eq_nil_of_le (by omega), List.nil_append,
          Nat.add_sub_cancel_left] at hfeed
        exact hfinal ⟨hafter, rest.take i, by rw [← hfeed, List.take_append_drop]⟩
    · exact (h.endsAt_iff (by omega)).mpr (.inl hlength.symm)

/-- The story in a context is the body without notes and without white space around it. -/
theorem recent_eq (h : Extract text before header body after) :
    recent text = trim (stripNotes body) := by
  obtain ⟨gap, story, tail, hgap, htail, rfl, hcaptured⟩ := h.exists_captured
  rw [recent, hcaptured, stripNotes_blanks hgap htail, trim_blanks hgap htail]

end Extract

/-- Without a header there is no story. -/
theorem recent_eq_nil (h : ∀ header, IsHeader header → ¬header <:+: text) : recent text = [] := by
  have hnone (q : Nat) : storyPattern.matchAt? text.toArray false q = none := by
    cases hmatch : storyPattern.matchAt? text.toArray false q with
    | none => rfl
    | some m =>
      obtain ⟨header, hheader, hstands⟩ := exists_header_of_matchAt? hmatch
      exact absurd (hstands.isInfix.trans (List.drop_suffix q text).isInfix) (h header hheader)
  have hcaptured : captured? text.toArray = none := by
    rw [captured?, searchFrom?_eq_none (fun q _ => hnone q) (Nat.zero_le _)]
    rfl
  rw [recent, hcaptured]

/-- A context without a header has an empty story. The story in any other context is what stands
behind its first header up to the first marker behind that, without notes and without white space
around it. So it depends on nothing else, and no marker stands in it. -/
theorem recent_eq_scan (text : List Char) :
    ((∀ header, IsHeader header → ¬header <:+: text) → recent text = []) ∧
    ((∃ header, IsHeader header ∧ header <:+: text) →
      ∃ before header body after, Extract text before header body after) ∧
    (∀ before header body after, Extract text before header body after →
      recent text = trim (stripNotes body) ∧
      ∀ text' before' header' after', Extract text' before' header' body after' →
        recent text' = recent text) ∧
    ∀ m, IsMarker m → ¬m <:+: recent text := by
  refine ⟨recent_eq_nil, exists_extract, fun before header body after h => ⟨h.recent_eq, ?_⟩, ?_⟩
  · intro text' before' header' after' h'
    rw [h'.recent_eq, h.recent_eq]
  · intro m hm hinfix
    by_cases hheader : ∃ header, IsHeader header ∧ header <:+: text
    · obtain ⟨before, header, body, after, h⟩ := exists_extract hheader
      obtain ⟨w, t, -, -, hstripped⟩ := exists_trim (stripNotes body)
      rw [h.recent_eq] at hinfix
      have hstrip : m <:+: stripNotes body := by
        rw [hstripped]
        exact hinfix.trans (List.infix_append _ _ _)
      exact h.not_infix_body hm (infix_of_infix_stripNotes hm.not_isSpace hstrip)
    · rw [recent_eq_nil fun header hh hin => hheader ⟨header, hh, hin⟩] at hinfix
      exact hm.ne_nil (List.infix_nil.mp hinfix)

/-- What starts with a character that a text does not have starts behind that text. -/
theorem length_le_of_not_mem {c : Char} {p q r u : List Char} (h : q ++ u = p ++ c :: r)
    (hc : c ∉ q) : q.length ≤ p.length := by
  rcases List.append_eq_append_iff.mp h with ⟨l, rfl, -⟩ | ⟨_ | ⟨d, l⟩, rfl, hd⟩
  · rw [List.length_append]
    omega
  · rw [List.append_nil]
  · rw [(List.cons.inj hd).1] at hc
    exact absurd (by simp) hc

/-- A second header and what follows the marker are left out, as is the note. -/
theorem recent_eq_scan_of_two_headers :
    let text := "x Recent  story:\n a[Author's note: n]b %@com@% Recent Story: c".toList
    Extract text "x ".toList "Recent  story:".toList "\n a[Author's note: n]b ".toList
        "%@com@% Recent Story: c".toList ∧
      recent text = "a b".toList := by
  intro text
  have hcomputed : sameLetters "Recent".toList "Recent".toList = true ∧
      sameLetters "Story".toList "story".toList = true ∧
      sameLetters "%@COM@%".toList "%@com@%".toList = true ∧
      ("x ".toList.all fun c => !sameLetter 'R' c) = true ∧
      trim (stripNotes "\n a[Author's note: n]b ".toList) = "a b".toList := by decide +kernel
  obtain ⟨hrecent, hstory, hcom, hnone, hresult⟩ := hcomputed
  have hheader : IsHeader "Recent  story:".toList :=
    @IsHeader.intro "Recent".toList "  ".toList "story".toList [] hrecent
      (List.all_eq_true.mp (by decide)) hstory (List.forall_mem_nil _)
  have hmarker : IsMarker "%@com@%".toList := .inr hcom
  have hextract : Extract text "x ".toList "Recent  story:".toList
      "\n a[Author's note: n]b ".toList "%@com@% Recent Story: c".toList := by
    refine ⟨rfl, hheader, fun p h r hsplit hh => ?_, .inr ⟨_, hmarker, _, rfl⟩,
      fun p m r hsplit hm => ?_⟩
    · obtain ⟨c, s, rfl, hc⟩ := hh.exists_cons
      rw [List.append_assoc] at hsplit
      refine length_le_of_not_mem (q := "x ".toList) hsplit fun hmem => ?_
      exact absurd hc (by simpa using List.all_eq_true.mp hnone c hmem)
    · obtain ⟨s, rfl⟩ := hm.exists_cons
      rw [List.append_assoc] at hsplit
      exact length_le_of_not_mem hsplit (by decide)
  obtain ⟨-, -, hscan, -⟩ := recent_eq_scan text
  exact ⟨hextract, (hscan _ _ _ _ hextract).1.trans hresult⟩

end Trigger.Story
