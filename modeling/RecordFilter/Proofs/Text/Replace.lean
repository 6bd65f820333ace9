import RecordFilter.Text.Replace

/-!
# Walking along a text

Facts about `replaceAll` that hold for every pattern that leaves a proper end of the text it looked
at. `replaceAll_induction` is the recursion principle of the walk: a character stays, or an
occurrence gives way and the walk goes on behind it.
-/

namespace RecordFilter.Text

/-- What the pattern leaves behind an occurrence is a proper end of the text. -/
def Consumes (p : Pattern) : Prop := ∀ c s o, p (c :: s) = some o → o.rest <:+ s

theorem replaceAll_induction {p : Pattern} (hp : Consumes p)
    {motive : List Char → List Char → Prop} (nil : motive [] [])
    (keep : ∀ c s, p (c :: s) = none → motive s (replaceAll p s) →
      motive (c :: s) (c :: replaceAll p s))
    (swap : ∀ c s o, p (c :: s) = some o → motive o.rest (replaceAll p o.rest) →
      motive (c :: s) (o.new ++ replaceAll p o.rest))
    (s : List Char) : motive s (replaceAll p s) := by
  induction hn : s.length using Nat.strongRecOn generalizing s with
  | _ n ih =>
    cases s with
    | nil => exact nil
    | cons c s =>
      rw [List.length_cons] at hn
      cases ho : p (c :: s) with
      | none =>
        rw [replaceAll_cons_none ho]
        exact keep c s ho (ih s.length (by omega) s rfl)
      | some o =>
        have hrest := hp c s o ho
        have hlen := hrest.length_le
        rw [replaceAll_cons_some ho hrest]
        exact swap c s o ho (ih o.rest.length (by omega) o.rest rfl)

theorem absent_nil (p : Pattern) : Absent p [] := by
  intro t ht hs
  exact absurd (List.suffix_nil.1 hs) ht

theorem absent_cons {p : Pattern} {c : Char} {s : List Char} :
    Absent p (c :: s) ↔ p (c :: s) = none ∧ Absent p s := by
  constructor
  · intro h
    refine ⟨h _ (by simp) (List.suffix_refl _), ?_⟩
    intro t ht hs
    exact h t ht (hs.trans (List.suffix_cons c s))
  · rintro ⟨hc, hs⟩ t ht hts
    rcases List.suffix_cons_iff.1 hts with rfl | hts
    · exact hc
    · exact hs t ht hts

/-- An occurrence starts nowhere in a text that holds none. -/
theorem Absent.ne_append {p : Pattern} {s v : List Char} {o : Occurrence} (h : Absent p s)
    (ho : p v = some o) (hv : v ≠ []) (u : List Char) : s ≠ u ++ v := by
  rintro rfl
  rw [h v hv (List.suffix_append u v)] at ho
  cases ho

end RecordFilter.Text
