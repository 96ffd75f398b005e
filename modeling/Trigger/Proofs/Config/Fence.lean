import Mathlib.Data.List.DropRight
import Trigger.Config.Reader
import Trigger.Config.Standard
import Trigger.Proofs.Text.Utf8
import Trigger.Proofs.Toml.Lines

/-!
# Documents that were pasted

A document that was pasted with a fence around it, or with a byte-order mark in front of it, is no
document as it stands, and cleaning leaves nothing of it but the document without the white space
around it. So it is the same configuration, or wrong in the same way.
-/

namespace Trigger.Config

open Text

/-- A text between two fences, each on a line of its own. -/
def fenced (t : List Char) : List Char := fence ++ '\n' :: (t ++ '\n' :: fence)

/-- What is tried for a text that is no document as it stands. -/
theorem cleaned_encode (t : List Char) :
    cleaned (encode t) = (unfence (trim (unifyLineEnds (dropMark t)))).dropWhile isZeroWidth := by
  rw [cleaned, decodeLossy_encode]

/-- A file whose text is no document, and is cleaned into one. -/
theorem ofBytes_encode_of_cleaned (library : SchemaLibrary) {s t : List Char}
    (hs : Toml.read? s = none) (ht : (Toml.read? t).isSome = true)
    (hclean : Toml.read? (cleaned (encode s)) = Toml.read? t) :
    ofBytes library (encode s) = ofBytes library (encode t) := by
  obtain ⟨entries, hread⟩ := Option.isSome_iff_exists.mp ht
  have hs' : tableOf (encode s) = .ok entries := by
    rw [tableOf, decode?_encode, Option.bind_some, hs, hclean, hread]
  have ht' : tableOf (encode t) = .ok entries := by
    rw [tableOf, decode?_encode, Option.bind_some, hread]
  rw [ofBytes, ofBytes, hs', ht']

/-- No document starts with a backtick or with a character without width. -/
theorem read?_eq_none_of_mark {c : Char} (hc : c = '`' ∨ isZeroWidth c = true) (s : List Char) :
    Toml.read? (c :: s) = none := by
  have hc' : c = '`' ∨ c = '\ufeff' ∨ c = '\u200b' ∨ c = '\u200c' ∨ c = '\u200d' ∨
      c = '\u2060' := by
    simpa [isZeroWidth] using hc
  rcases hc' with rfl | rfl | rfl | rfl | rfl | rfl <;>
    exact Toml.read?_eq_none (by decide) (by decide) (by decide) (by decide) (by decide)
      (by decide) (by decide) (by decide) s

section Cleaning

variable {t u : List Char} {entries : Toml.Entries}

/-- A document has no fence around it. -/
theorem unfence_of_read? (h : Toml.read? t = some entries) : unfence t = t := by
  refine if_neg fun hfence => ?_
  obtain ⟨rest, rfl⟩ := List.isPrefixOf_iff_prefix.mp hfence
  exact nomatch (read?_eq_none_of_mark (.inl rfl) _).symm.trans h

/-- A document has no characters without width at its start. -/
theorem dropWhile_of_read? (h : Toml.read? t = some entries) : t.dropWhile isZeroWidth = t := by
  cases t with
  | nil => rfl
  | cons c t =>
    exact List.dropWhile_cons_of_neg fun hc =>
      nomatch (read?_eq_none_of_mark (.inr hc) t).symm.trans h

/-- Line ends between fences are unified. -/
theorem unifyLineEnds_fenced (ht : '\r' ∉ Toml.unifyLines t) :
    unifyLineEnds (fenced t) = fenced (Toml.unifyLines t) := by
  have hopen (s : List Char) :
      unifyLineEnds (fence ++ '\n' :: s) = fence ++ '\n' :: unifyLineEnds s := rfl
  have hclose : unifyLineEnds ('\n' :: fence) = '\n' :: fence := rfl
  rw [fenced, hopen, Toml.unifyLineEnds_append ht, hclose, fenced]

/-- A fenced text starts and ends with backticks. -/
theorem trim_fenced (u : List Char) : trim (fenced u) = fenced u := by
  have hends : fenced u = '`' :: ('`' :: '`' :: '\n' :: (u ++ ['\n', '`', '`']) ++ ['`']) := by
    simp [fenced, fence]
  rw [hends, trim, trimStart_cons (by decide), ← List.cons_append, trimEnd_append (by decide)]

/-- Characters at the end of a text stay there if the last one fails the test. -/
theorem dropEnd_append_of_neg {test : Char → Bool} {c : Char} (hc : test c = false)
    (s : List Char) : dropEnd test (s ++ [c]) = s ++ [c] := by
  rw [dropEnd, List.reverse_append, List.reverse_singleton, List.singleton_append,
    List.dropWhile_cons_of_neg (by simp [hc]), List.reverse_cons, List.reverse_reverse]

/-- White space at the start of what stands before a fence is left out, and nothing else. -/
theorem trim_append_fence (s : List Char) : trim (s ++ fence) = trimStart s ++ fence := by
  have hstart : trimStart (s ++ fence) = trimStart s ++ fence := by
    rw [trimStart, List.dropWhile_append, trimStart]
    split
    · rename_i hempty
      rw [List.isEmpty_iff.mp hempty]
      rfl
    · rfl
  have hfence : fence = ['`', '`'] ++ ['`'] := rfl
  rw [trim, hstart, hfence, ← List.append_assoc, trimEnd_append (by decide)]

/-- A fence is left out at the end of a text behind a line feed, and nothing before it. -/
theorem dropEnd_trimStart (u : List Char) :
    dropEnd (· == '`') (trimStart (u ++ ['\n']) ++ fence) = trimStart (u ++ ['\n']) := by
  have hfence : dropEnd (· == '`') (trimStart (u ++ ['\n']) ++ fence) =
      dropEnd (· == '`') (trimStart (u ++ ['\n'])) := by
    rw [dropEnd, dropEnd, List.reverse_append, List.dropWhile_append_of_pos (by simp [fence])]
  have hsuffix : trimStart (u ++ ['\n']) <:+ u ++ ['\n'] := List.dropWhile_suffix _
  rw [hfence]
  rcases List.suffix_concat_iff.mp hsuffix with hnil | ⟨v, hv, -⟩
  · rw [hnil]
    rfl
  · rw [hv, dropEnd_append_of_neg (by decide)]

/-- Without its fences, a text is left without the white space around it. -/
theorem unfence_fenced (u : List Char) : unfence (fenced u) = trim u := by
  have hopen : fence.isPrefixOf (fenced u) = true := rfl
  have hdrop : (fenced u).dropWhile (· == '`') = ['\n'] ++ u ++ ['\n'] ++ fence := by
    simp [fenced, fence]
  have hinner : trim ((fenced u).dropWhile (· == '`')) = trimStart (u ++ ['\n']) ++ fence := by
    rw [hdrop, trim_append_fence]
    rfl
  have hclose : fence.isSuffixOf (trimStart (u ++ ['\n']) ++ fence) = true :=
    List.isSuffixOf_iff_suffix.mpr (List.suffix_append _ _)
  have htrim : trim (trimStart (u ++ ['\n'])) = trim u := by
    have hspace : trim ([] ++ u ++ ['\n']) = trim u :=
      trim_blanks (by simp) (by simp; decide)
    rw [List.nil_append] at hspace
    rw [← hspace, trim, trim, trimStart, trimStart, List.dropWhile_idempotent]
  rw [unfence, if_pos hopen]
  dsimp only
  rw [hinner, if_pos hclose, dropEnd_trimStart, htrim]

end Cleaning

/-- A fence around a document, a byte-order mark in front of it, or both, do not change the
configuration that it stands for, or what is wrong with it. -/
theorem ofBytes_of_pasted (library : SchemaLibrary) {t : List Char}
    (h : (Toml.read? t).isSome = true) :
    ofBytes library (encode (fenced t)) = ofBytes library (encode t) ∧
      ofBytes library (encode ('\ufeff' :: fenced t)) = ofBytes library (encode t) ∧
      ofBytes library (encode ('\ufeff' :: t)) = ofBytes library (encode t) := by
  obtain ⟨entries, hread⟩ := Option.isSome_iff_exists.mp h
  have hreturn := Toml.return_not_mem_of_read? hread
  have htrim := Toml.read?_trim hread
  have hfenced : Toml.read? ((unfence (trim (unifyLineEnds (fenced t)))).dropWhile isZeroWidth) =
      Toml.read? t := by
    rw [unifyLineEnds_fenced hreturn, trim_fenced, unfence_fenced, dropWhile_of_read? htrim, htrim,
      hread]
  refine ⟨?_, ?_, ?_⟩
  · refine ofBytes_encode_of_cleaned library (read?_eq_none_of_mark (.inl rfl) _) h ?_
    rw [cleaned_encode]
    exact hfenced
  · refine ofBytes_encode_of_cleaned library (read?_eq_none_of_mark (.inr rfl) _) h ?_
    rw [cleaned_encode]
    exact hfenced
  · refine ofBytes_encode_of_cleaned library (read?_eq_none_of_mark (.inr rfl) _) h ?_
    have hends : unifyLineEnds t = Toml.unifyLines t := by
      simpa [unifyLineEnds] using Toml.unifyLineEnds_append hreturn []
    rw [cleaned_encode, dropMark, hends, unfence_of_read? htrim, dropWhile_of_read? htrim, htrim,
      hread]

/-- A document with both line ends and backticks in a comment at its end. -/
theorem ofBytes_of_pasted_comment :
    ofBytes .standard (encode (fenced "[engine]\r\ncache_max_entries = 3 # ```\n".toList)) =
      ofBytes .standard (encode "[engine]\r\ncache_max_entries = 3 # ```\n".toList) :=
  (ofBytes_of_pasted .standard (by decide +kernel)).1

end Trigger.Config
