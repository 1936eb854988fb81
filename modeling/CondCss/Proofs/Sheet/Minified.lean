import CondCss.Minify
import CondCss.Proofs.Cascade.Reading

/-!
# Minified style sheets

A style sheet that consists of stretches with blanks between them still does when it is minified
(`Spread.minify`): each stretch is minified on its own, and some blanks between stretches are dropped.
-/

namespace CondCss

namespace Sheet.Spread

open Minify (tighten isPunctuation)

theorem solid_collapse {items : List Text} (solid : ∀ t ∈ items, Text.trim t = t ∧ t ≠ []) :
    ∀ t ∈ items.map Text.collapse, Text.trim t = t ∧ t ≠ [] := by
  intro t ht
  obtain ⟨u, hu, rfl⟩ := List.mem_map.1 ht
  obtain ⟨trimmed, nonempty⟩ := solid u hu
  refine ⟨?_, fun empty => nonempty (Text.collapse_eq_nil.1 empty)⟩
  rw [Text.trim_collapse, Text.tidy, trimmed]

theorem collapse {items : List Text} {s : Text} (h : Spread items s)
    (solid : ∀ t ∈ items, Text.trim t = t ∧ t ≠ []) :
    Spread (items.map Text.collapse) (Text.collapse s) := by
  induction h with
  | nil => exact .nil
  | blank hc _ ih =>
    rw [Text.collapse_of_blank hc, ← Text.trimLeft_collapse]
    exact .blank (by decide) ((ih solid).trimLeft (solid_collapse solid))
  | @item items s t _ ih =>
    obtain ⟨⟨trimmed, nonempty⟩, later⟩ := List.forall_mem_cons.1 solid
    rw [Text.collapse_append_of_trim trimmed nonempty]
    exact .item _ (ih later)

/-- What is behind a character that is no blank, when blanks beside punctuation are dropped. -/
def tightenBehind (c : Char) (s : Text) : Text :=
  if isPunctuation c then Text.trimLeft (tighten s) else tighten s

theorem tighten_append_cons {c : Char} (hc : Text.isBlank c = false) (front : Text) :
    ∃ front', ∀ s, tighten (front ++ c :: s) = front' ++ c :: tightenBehind c s := by
  induction front with
  | nil =>
    refine ⟨[], fun s => ?_⟩
    rw [List.nil_append, tighten, tightenBehind]
    split <;> simp [hc]
  | cons d front ih =>
    obtain ⟨front', shape⟩ := ih
    by_cases punctuation : isPunctuation d = true
    · refine ⟨d :: Text.trimLeft front', fun s => ?_⟩
      rw [List.cons_append, tighten, shape, if_pos punctuation, Text.trimLeft_append_cons hc]
      rfl
    · have head (s : Text) : (front' ++ c :: tightenBehind c s).head? = (front' ++ [c]).head? := by
        cases front' <;> rfl
      by_cases dropped : (Text.isBlank d && (front' ++ [c]).head?.any isPunctuation) = true
      · refine ⟨front', fun s => ?_⟩
        rw [List.cons_append, tighten, shape, if_neg punctuation, head, if_pos dropped]
      · refine ⟨d :: front', fun s => ?_⟩
        rw [List.cons_append, tighten, shape, if_neg punctuation, head, if_neg dropped]
        rfl

theorem tighten_append {t : Text} (trimmed : Text.trim t = t) (nonempty : t ≠ []) :
    ∃ c, ∀ s, tighten (t ++ s) = tighten t ++ tightenBehind c s := by
  obtain ⟨front, c, rfl, notBlank⟩ := Text.exists_concat_of_trim trimmed nonempty
  obtain ⟨front', shape⟩ := tighten_append_cons notBlank front
  refine ⟨c, fun s => ?_⟩
  have alone : tighten (front ++ [c]) = front' ++ [c] := by
    rw [shape, tightenBehind]
    split <;> rfl
  rw [alone, List.append_assoc, List.singleton_append, shape, List.append_assoc,
    List.singleton_append]

theorem solid_tighten {items : List Text} (solid : ∀ t ∈ items, Text.trim t = t ∧ t ≠ []) :
    ∀ t ∈ items.map tighten, Text.trim t = t ∧ t ≠ [] := by
  intro t ht
  obtain ⟨u, hu, rfl⟩ := List.mem_map.1 ht
  obtain ⟨trimmed, nonempty⟩ := solid u hu
  obtain ⟨a, back, starts⟩ : ∃ a back, tighten u = a :: back ∧ Text.isBlank a = false := by
    obtain ⟨a, u, rfl⟩ := List.exists_cons_of_ne_nil nonempty
    have notBlank := Text.not_blank_of_trim_cons trimmed
    rw [Minify.tighten]
    split <;> simp [notBlank]
  obtain ⟨front, c, ends⟩ : ∃ front c, tighten u = front ++ [c] ∧ Text.isBlank c = false := by
    obtain ⟨front, c, rfl, notBlank⟩ := Text.exists_concat_of_trim trimmed nonempty
    obtain ⟨front', shape⟩ := tighten_append_cons notBlank front
    refine ⟨front', c, ?_, notBlank⟩
    rw [shape, tightenBehind]
    split <;> rfl
  refine ⟨?_, starts.1 ▸ List.cons_ne_nil a back⟩
  have left : Text.trimLeft (tighten u) = tighten u := by
    rw [starts.1, Text.trimLeft_of_not_blank starts.2]
  rw [Text.trim, left, ends.1, Text.trimRight_append_cons ends.2, Text.trimRight_nil]

theorem tighten {items : List Text} {s : Text} (h : Spread items s)
    (solid : ∀ t ∈ items, Text.trim t = t ∧ t ≠ []) :
    Spread (items.map Minify.tighten) (Minify.tighten s) := by
  induction h with
  | nil => exact .nil
  | @blank c items s hc _ ih =>
    rw [Minify.tighten]
    split
    · exact .blank hc ((ih solid).trimLeft (solid_tighten solid))
    · split
      · exact ih solid
      · exact .blank hc (ih solid)
  | @item items s t _ ih =>
    obtain ⟨⟨trimmed, nonempty⟩, later⟩ := List.forall_mem_cons.1 solid
    obtain ⟨c, split⟩ := tighten_append trimmed nonempty
    rw [split, tightenBehind]
    refine .item _ ?_
    split
    · exact (ih later).trimLeft (solid_tighten later)
    · exact ih later

/-- Minifying a text minifies its stretches and drops blanks between them. -/
theorem minify {items : List Text} {s : Text} (h : Spread items s)
    (solid : ∀ t ∈ items, Text.trim t = t ∧ t ≠ []) :
    Spread (items.map CondCss.minify) (CondCss.minify s) := by
  have tightened := (h.collapse solid).tighten (solid_collapse solid)
  have solid' := solid_tighten (solid_collapse solid)
  have trimmed := tightened.trim fun t ht => (solid' t ht).1.symm ▸ (solid' t ht).2
  rwa [List.map_map, List.map_map] at trimmed

end Sheet.Spread

end CondCss
