import RecordFilter.Proofs.Normal.NormalForm

/-!
# Tidy filters

Whether a filter is its own normal form can be told without a pass. Behind its slots it must be
*tidy*: the brackets are balanced, the only blanks are single spaces inside the text, every
connective stands between two of them, and none of the first seven rules finds anything. A pass
leaves such a text as it is, and it leaves no other one as it is: what a rule does is never undone
by a later one.

## Main statements

* `rulePass_eq_self_iff`: the texts that a pass leaves as they are.
* `tidy_of_plain`: a text without blanks, brackets and marks is tidy.
* `isNormalized_iff_tidy`: a filter is its own normal form exactly if it is tidy behind its slots.
-/

namespace RecordFilter

namespace Normal

open Text

/-- A text that shows nothing to put right. -/
structure Tidy (s : List Char) : Prop where
  balanced : Balanced s
  no_leading_blank : ∀ x v, s = x :: v → isBlank x = false
  no_trailing_blank : ∀ u x, s = u ++ [x] → isBlank x = false
  single_spaces : ∀ u b v, s = u ++ b ++ v → Blanks b → b ≠ [] → b = [' ']
  spaced_connective : ∀ u (c : Connective) v, s = u ++ c.symbol.toList ++ v →
    ∃ u' x y v', u = u' ++ [x, ' '] ∧ v = ' ' :: y :: v' ∧ isBlank x = false ∧ isBlank y = false
  quiet : Quiet s

variable {s t : List Char}

/-! ## Texts that a pass leaves as they are -/

theorem dropLeadingConnective_eq_self (h : connectiveAhead? s = none) :
    dropLeadingConnective s = s := by
  simp [dropLeadingConnective, h]

/-- Rules that find nothing do nothing. -/
theorem Quiet.clean_eq_self (h : Quiet s) : clean s = s := by
  rw [clean, replaceAll_eq_self h.emptyGroup, replaceAll_eq_self h.connectiveBeforeClose,
    replaceAll_eq_self h.connectiveAfterOpen, replaceAll_eq_self h.doubledConnective,
    dropLeadingConnective_eq_self h.leadingConnective, replaceAll_eq_self h.trailingConnective,
    replaceAll_eq_self h.closeBeforeCondition]

/-- A pass leaves a text as it is exactly if the text is spaced and none of the first seven rules
finds anything. -/
theorem rulePass_eq_self_iff : rulePass s = s ↔ Spaced s ∧ Quiet s := by
  constructor
  · intro h
    obtain ⟨hquiet, hspace⟩ := quiet_of_rulePass_eq h
    refine ⟨?_, hquiet⟩
    rw [← hspace]
    exact spaced_space s
  · rintro ⟨hspaced, hquiet⟩
    rw [rulePass_eq, hquiet.clean_eq_self, space_eq_self hspaced hquiet]

/-! ## Tidy texts -/

/-- In a spaced text, a run of blanks is one space. -/
theorem Spaced.eq_space_of_blanks (hs : Spaced s) {u b v : List Char} (h : s = u ++ b ++ v)
    (hb : Blanks b) (hne : b ≠ []) : b = [' '] := by
  obtain ⟨x, b, rfl⟩ := List.exists_cons_of_ne_nil hne
  obtain ⟨hx, hrest⟩ := blanks_cons.1 hb
  obtain ⟨rfl, hsolid⟩ := hs.single u x (b ++ v) (by simp [h]) hx
  cases b with
  | nil => rfl
  | cons y b =>
    have hy : isBlank y = false := solid_cons.1 hsolid
    rw [(blanks_cons.1 hrest).1] at hy
    cases hy

theorem Tidy.spaced (h : Tidy s) : Spaced s where
  first := by
    cases s with
    | nil => exact solid_nil
    | cons x v => exact solid_cons.2 (h.no_leading_blank x v rfl)
  last := h.no_trailing_blank
  single := by
    intro u x v hs hx
    have hspace : x = ' ' := by
      simpa using h.single_spaces u [x] v (by simp [hs]) (by simp [hx]) (by simp)
    refine ⟨hspace, ?_⟩
    cases v with
    | nil => exact solid_nil
    | cons y w =>
      -- two blanks in a row would be a run that is not one space
      cases hy : isBlank y with
      | false => exact solid_cons.2 hy
      | true =>
        have hrun := h.single_spaces u [x, y] w (by simp [hs]) (by simp [hx, hy]) (by simp)
        simp at hrun
  before := by
    intro u c v hs
    obtain ⟨u', x, -, -, rfl, -⟩ :=
      h.spaced_connective u c v (by simp [hs, Connective.toList_symbol])
    exact .inr ⟨u' ++ [x], by simp⟩
  after := by
    intro u c v hs
    obtain ⟨-, -, y, v', -, rfl, -⟩ :=
      h.spaced_connective u c v (by simp [hs, Connective.toList_symbol])
    exact .inr ⟨y :: v', rfl⟩

theorem Tidy.of_quiet (hb : Balanced s) (hs : Spaced s) (hq : Quiet s) : Tidy s where
  balanced := hb
  no_leading_blank := (NormalForm.of_quiet hb hs hq).no_leading_blank
  no_trailing_blank := hs.last
  single_spaces := fun _ _ _ => hs.eq_space_of_blanks
  spaced_connective := (NormalForm.of_quiet hb hs hq).spaced_connective
  quiet := hq

/-! ## Texts without blanks, brackets and marks -/

theorem Covers.absent_of_plain {p : Pattern} (hp : Covers p) (h : ∀ x ∈ s, isPlain x = true) :
    Absent p s := by
  intro t hne ht
  cases hocc : p t with
  | none => rfl
  | some o =>
    -- the first character of an occurrence would be structural
    obtain ⟨u, hu, rfl, hstructural, -⟩ := hp t o hocc
    obtain ⟨x, hx⟩ := List.exists_mem_of_ne_nil u hu
    have hplain := h x (ht.subset (List.mem_append_left _ hx))
    rw [hstructural x hx] at hplain
    cases hplain

theorem connectiveAhead?_of_plain (h : ∀ x ∈ s, isPlain x = true) : connectiveAhead? s = none := by
  rw [Option.eq_none_iff_forall_ne_some]
  rintro ⟨c, r⟩ hahead
  obtain ⟨b, -, rfl⟩ := connectiveAhead?_eq_some_iff.1 hahead
  have hmark := h c.mark (by simp)
  simp at hmark

theorem balanced_of_plain (h : ∀ x ∈ s, isPlain x = true) : Balanced s := by
  have hcount : ∀ c, isPlain c = false → ∀ u, u <+: s → u.count c = 0 := by
    intro c hc u hu
    refine List.count_eq_zero.2 fun hmem => ?_
    rw [h c (hu.subset hmem)] at hc
    cases hc
  have hopen := hcount '(' isPlain_open
  have hclose := hcount ')' isPlain_close
  refine balanced_iff.2 ⟨fun u hu => by simp [hclose u hu], ?_⟩
  rw [hopen s List.prefix_rfl, hclose s List.prefix_rfl]

theorem spaced_of_plain (h : ∀ x ∈ s, isPlain x = true) : Spaced s := by
  have hsolid : ∀ u x v, s = u ++ x :: v → isBlank x = false :=
    fun u x v hs => isBlank_of_isPlain (h x (by simp [hs]))
  have hmark : ∀ u (c : Connective) v, s ≠ u ++ c.mark :: c.mark :: v := by
    intro u c v hs
    have hplain := h c.mark (by simp [hs])
    simp at hplain
  refine ⟨?_, fun u x hs => hsolid u x [] hs, fun u x v hs hx => ?_, fun u c v hs => ?_,
    fun u c v hs => ?_⟩
  · cases s with
    | nil => exact solid_nil
    | cons x v => exact solid_cons.2 (hsolid [] x v rfl)
  · have hx' := hsolid u x v hs
    rw [hx] at hx'
    cases hx'
  · exact absurd hs (hmark u c v)
  · exact absurd hs (hmark u c v)

/-- A text without blanks, brackets and marks has nothing to put right. -/
theorem tidy_of_plain (h : ∀ x ∈ s, isPlain x = true) : Tidy s :=
  .of_quiet (balanced_of_plain h) (spaced_of_plain h)
    ⟨covers_emptyGroup.absent_of_plain h, covers_connectiveBeforeClose.absent_of_plain h,
      covers_connectiveAfterOpen.absent_of_plain h, covers_doubledConnective.absent_of_plain h,
      connectiveAhead?_of_plain h, covers_trailingConnective.absent_of_plain h,
      covers_closeBeforeCondition.absent_of_plain h⟩

/-! ## Filters that are their own normal form -/

/-- What a filter is normalized to is tidy behind its slots. -/
theorem tidy_normalizeChars (t : List Char) : Tidy (shield (normalizeChars t)).text := by
  rw [text_shield_normalizeChars]
  exact .of_quiet (balanced_settled t) (spaced_settled t) (quiet_settled t)

theorem normalizeChars_eq_self_iff : normalizeChars t = t ↔ Tidy (shield t).text := by
  constructor
  · intro h
    have htidy := tidy_normalizeChars t
    rwa [h] at htidy
  · intro h
    have hsettled := settled_eq_self h.balanced (rulePass_eq_self_iff.2 ⟨h.spaced, h.quiet⟩)
    rw [normalizeChars, hsettled]
    exact restore_shield t

end Normal

open RecordFilter.Normal

/-- A filter is its own normal form exactly if it is tidy outside its literals: balanced, rightly
spaced, and with nothing in it that one of the first seven rules looks for. -/
theorem isNormalized_iff_tidy (t : String) :
    isNormalized t = true ↔ Tidy (shield t.toList).text := by
  rw [isNormalized, beq_iff_eq, ← normalizeChars_eq_self_iff, normalize, ← String.toList_inj,
    String.toList_ofList]

end RecordFilter
