import RecordFilter.Proofs.Normal.Debt

/-!
# Spacing

What the last two rules and the trimming leave: the only blanks are single spaces, none of them at
an end, and a connective touches nothing but spaces and the ends of the text. In a text of this kind
in which no connective stands beside another one or at an end, they find nothing left to do.

## Main statements

* `spaced_space`: what they leave is spaced.
* `space_eq_self`: a quiet text that is spaced stays as it is.
-/

namespace RecordFilter.Normal

open Text

/-! ## Connectives -/

/-- A connective has a space on each side; at the start of the text, `edge` stands for it. -/
def Apart (edge : Bool) (s : List Char) : Prop :=
  ∀ u (c : Connective) v, s = u ++ c.mark :: c.mark :: v →
    (u = [] ∧ edge = true ∨ ∃ u', u = u' ++ [' ']) ∧ ∃ v', v = ' ' :: v'

theorem apart_nil (edge : Bool) : Apart edge [] := by
  intro u c v h
  simp at h

theorem apart_cons {edge : Bool} {x : Char} {s : List Char} :
    Apart edge (x :: s) ↔ (∀ (c : Connective) v, x = c.mark → s = c.mark :: v →
      edge = true ∧ ∃ v', v = ' ' :: v') ∧ Apart (x == ' ') s := by
  constructor
  · intro h
    refine ⟨?_, ?_⟩
    · rintro c v rfl rfl
      obtain ⟨⟨-, hedge⟩ | ⟨u', hu⟩, hv⟩ := h [] c v rfl
      · exact ⟨hedge, hv⟩
      · simp at hu
    · rintro u c v rfl
      obtain ⟨⟨hu, -⟩ | ⟨u', hu⟩, hv⟩ := h (x :: u) c v rfl
      · cases hu
      · refine ⟨?_, hv⟩
        cases u' with
        | nil =>
          obtain ⟨rfl, rfl⟩ := List.cons.inj hu
          exact .inl ⟨rfl, rfl⟩
        | cons y u' => exact .inr ⟨u', (List.cons.inj hu).2⟩
  · rintro ⟨hx, hs⟩ u c v h
    cases u with
    | nil =>
      obtain ⟨rfl, rfl⟩ := List.cons.inj h
      obtain ⟨hedge, hv⟩ := hx c v rfl rfl
      exact ⟨.inl ⟨rfl, hedge⟩, hv⟩
    | cons y u =>
      obtain ⟨rfl, rfl⟩ := List.cons.inj h
      obtain ⟨⟨rfl, hy⟩ | ⟨u', rfl⟩, hv⟩ := hs u c v rfl
      · exact ⟨.inr ⟨[], by simpa using hy⟩, hv⟩
      · exact ⟨.inr ⟨x :: u', rfl⟩, hv⟩

theorem Apart.mono {edge edge' : Bool} {s : List Char} (h : Apart edge s)
    (he : edge = true → edge' = true) : Apart edge' s := by
  intro u c v hs
  obtain ⟨hu, hv⟩ := h u c v hs
  exact ⟨hu.imp_left fun hu => ⟨hu.1, he hu.2⟩, hv⟩

theorem Apart.of_append {edge : Bool} {u s : List Char} (h : Apart edge (u ++ s)) :
    Apart true s := by
  induction u generalizing edge with
  | nil => exact h.mono fun _ => rfl
  | cons x u ih => exact ih (apart_cons.1 h).2

@[simp] theorem space_ne_mark (c : Connective) : ' ' ≠ c.mark := by cases c <;> decide

@[simp] theorem mark_ne_space (c : Connective) : c.mark ≠ ' ' := (space_ne_mark c).symm

theorem apart_space_cons {edge : Bool} {s : List Char} (h : Apart true s) :
    Apart edge (' ' :: s) :=
  apart_cons.2 ⟨fun c _ hc => absurd hc (space_ne_mark c), h⟩

/-- A character that is not blank stands first in what loosening leaves only if it stood first. -/
theorem eq_cons_of_replaceAll_looseConnective {s t : List Char} {x : Char} (hx : isBlank x = false)
    (h : replaceAll looseConnective s = x :: t) : ∃ r, s = x :: r := by
  cases s with
  | nil => cases h
  | cons y s =>
    cases hy : looseConnective (y :: s) with
    | none =>
      rw [replaceAll_cons_none hy] at h
      exact ⟨s, by rw [(List.cons.inj h).1]⟩
    | some o =>
      obtain ⟨-, c, b, b', -, -, hnew, -⟩ := looseConnective_eq_some_iff.1 hy
      rw [replaceAll_cons_some hy (covers_looseConnective.consumes _ _ _ hy), hnew] at h
      obtain ⟨rfl, -⟩ := List.cons.inj h
      simp at hx

/-- Loosening puts a space on each side of every connective. -/
theorem apart_replaceAll_looseConnective (s : List Char) :
    Apart false (replaceAll looseConnective s) := by
  refine replaceAll_induction covers_looseConnective.consumes (motive := fun _ t => Apart false t)
    ?_ ?_ ?_ s
  · exact apart_nil false
  · intro x s hx ih
    refine apart_cons.2 ⟨?_, ih.mono (by simp)⟩
    -- two marks that stay would have been an occurrence
    rintro c v rfl hv
    obtain ⟨r, rfl⟩ := eq_cons_of_replaceAll_looseConnective (isBlank_mark c) hv
    have hahead : connectiveAhead? (c.mark :: c.mark :: r) = some (c, r) :=
      connectiveAhead?_append (b := []) blanks_nil c r
    simp [looseConnective, hahead] at hx
  · intro x s o ho ih
    obtain ⟨-, c, b, b', -, -, hnew, -⟩ := looseConnective_eq_some_iff.1 ho
    rw [hnew]
    refine apart_space_cons (apart_cons.2 ⟨?_, apart_cons.2 ⟨?_, ?_⟩⟩)
    · rintro d v - hv
      exact ⟨rfl, _, (List.cons.inj hv).2.symm⟩
    · rintro d v - hv
      exact absurd (List.cons.inj hv).1 (space_ne_mark d)
    · exact apart_space_cons (ih.mono fun _ => rfl)

/-- A character that is not blank stands first in what collapsing leaves only if it stood first. -/
theorem eq_cons_of_replaceAll_blankRun {s t : List Char} {x : Char} (hx : isBlank x = false)
    (h : replaceAll blankRun s = x :: t) : ∃ r, s = x :: r ∧ t = replaceAll blankRun r := by
  cases s with
  | nil => cases h
  | cons y s =>
    cases hy : blankRun (y :: s) with
    | none =>
      rw [replaceAll_cons_none hy] at h
      obtain ⟨rfl, rfl⟩ := List.cons.inj h
      exact ⟨s, rfl, rfl⟩
    | some o =>
      rw [replaceAll_cons_some hy (covers_blankRun.consumes _ _ _ hy),
        (blankRun_eq_some_iff.1 hy).1] at h
      obtain ⟨rfl, -⟩ := List.cons.inj h
      simp at hx

theorem replaceAll_blankRun_cons_space (s : List Char) :
    ∃ t, replaceAll blankRun (' ' :: s) = ' ' :: t := by
  have hrun : blankRun (' ' :: s) = some ⟨[' '], skipBlanks s⟩ := by simp [blankRun]
  exact ⟨_, replaceAll_cons_some hrun (covers_blankRun.consumes _ _ _ hrun)⟩

/-- Collapsing runs of blanks keeps the connectives apart. -/
theorem Apart.replaceAll_blankRun {edge : Bool} {s : List Char} (h : Apart edge s) :
    Apart edge (replaceAll blankRun s) := by
  refine replaceAll_induction covers_blankRun.consumes
    (motive := fun s t => ∀ edge, Apart edge s → Apart edge t) ?_ ?_ ?_ s edge h
  · exact fun _ h => h
  · intro x s hx ih edge h
    obtain ⟨hcons, hs⟩ := apart_cons.1 h
    refine apart_cons.2 ⟨?_, ih _ hs⟩
    rintro c v rfl hv
    obtain ⟨r, rfl, rfl⟩ := eq_cons_of_replaceAll_blankRun (isBlank_mark c) hv
    obtain ⟨hedge, r', rfl⟩ := hcons c r rfl rfl
    exact ⟨hedge, replaceAll_blankRun_cons_space r'⟩
  · intro x s o ho ih edge h
    obtain ⟨hnew, -, y, b, -, -, hs⟩ := blankRun_eq_some_iff.1 ho
    rw [hs, ← List.cons_append] at h
    rw [hnew]
    exact apart_space_cons (ih true h.of_append)

/-! ## Blanks -/

/-- Every blank is a single space. -/
def Single (s : List Char) : Prop :=
  ∀ u x v, s = u ++ x :: v → isBlank x = true → x = ' ' ∧ Solid v

theorem single_cons {x : Char} {s : List Char} :
    Single (x :: s) ↔ (isBlank x = true → x = ' ' ∧ Solid s) ∧ Single s := by
  constructor
  · intro h
    refine ⟨h [] x s rfl, ?_⟩
    rintro u y v rfl
    exact h (x :: u) y v rfl
  · rintro ⟨hx, hs⟩ u y v h
    cases u with
    | nil =>
      obtain ⟨rfl, rfl⟩ := List.cons.inj h
      exact hx
    | cons z u => exact hs u y v (List.cons.inj h).2

theorem solid_replaceAll_blankRun {s : List Char} (h : Solid s) :
    Solid (replaceAll blankRun s) := by
  cases s with
  | nil => exact h
  | cons x s =>
    have hx := solid_cons.1 h
    rw [replaceAll_cons_none (by simp [blankRun, hx])]
    exact solid_cons.2 hx

/-- Collapsing runs of blanks leaves single spaces. -/
theorem single_replaceAll_blankRun (s : List Char) : Single (replaceAll blankRun s) := by
  refine replaceAll_induction covers_blankRun.consumes (motive := fun _ t => Single t) ?_ ?_ ?_ s
  · intro u x v h
    simp at h
  · intro x s hx ih
    refine single_cons.2 ⟨fun hblank => ?_, ih⟩
    simp [blankRun, hblank] at hx
  · intro x s o ho ih
    obtain ⟨hnew, hsolid, -⟩ := blankRun_eq_some_iff.1 ho
    rw [hnew]
    exact single_cons.2 ⟨fun _ => ⟨rfl, solid_replaceAll_blankRun hsolid⟩, ih⟩

/-- Where every blank is a single space, there is nothing to collapse. -/
theorem Single.replaceAll_blankRun_eq {s : List Char} (h : Single s) :
    replaceAll blankRun s = s := by
  induction s with
  | nil => rfl
  | cons x s ih =>
    obtain ⟨hx, hs⟩ := single_cons.1 h
    cases hblank : isBlank x with
    | false => rw [replaceAll_cons_none (by simp [blankRun, hblank]), ih hs]
    | true =>
      obtain ⟨rfl, hsolid⟩ := hx hblank
      have hrun : blankRun (' ' :: s) = some ⟨[' '], s⟩ := by
        simp [blankRun, skipBlanks_of_solid hsolid]
      rw [replaceAll_cons_some hrun (List.suffix_refl s), ih hs]
      rfl

/-! ## Trimmed ends -/

theorem solid_trim (s : List Char) : Solid (trim s) := by
  obtain ⟨b, hb, hs⟩ := exists_blanks_dropTrailingBlanks (skipBlanks s)
  have hsolid := solid_skipBlanks s
  rw [hs] at hsolid
  unfold trim
  cases h : dropTrailingBlanks (skipBlanks s) with
  | nil => exact solid_nil
  | cons x r =>
    rw [h] at hsolid
    exact solid_cons.2 (solid_cons.1 hsolid)

theorem isBlank_last_trim {s u : List Char} {x : Char} (h : trim s = u ++ [x]) :
    isBlank x = false := by
  have hrev := congrArg List.reverse h
  rw [trim, dropTrailingBlanks, List.reverse_reverse, List.reverse_append] at hrev
  have hsolid := solid_skipBlanks (skipBlanks s).reverse
  rw [skipBlanks, hrev] at hsolid
  exact solid_cons.1 hsolid

/-- A text that neither starts nor ends with a blank is trimmed. -/
theorem trim_eq_self {s : List Char} (hfirst : Solid s)
    (hlast : ∀ u x, s = u ++ [x] → isBlank x = false) : trim s = s := by
  rw [trim, skipBlanks_of_solid hfirst, dropTrailingBlanks]
  have hsolid : Solid s.reverse := by
    cases h : s.reverse with
    | nil => exact solid_nil
    | cons x u =>
      refine solid_cons.2 (hlast u.reverse x ?_)
      simpa using congrArg List.reverse h
  rw [← skipBlanks, skipBlanks_of_solid hsolid, List.reverse_reverse]

/-! ## Spaced texts -/

/-- The only blanks are single spaces inside the text, and a connective has a space or an end of the
text on each side. -/
structure Spaced (s : List Char) : Prop where
  first : Solid s
  last : ∀ u x, s = u ++ [x] → isBlank x = false
  single : Single s
  before : ∀ u (c : Connective) v, s = u ++ c.mark :: c.mark :: v → u = [] ∨ ∃ u', u = u' ++ [' ']
  after : ∀ u (c : Connective) v, s = u ++ c.mark :: c.mark :: v → v = [] ∨ ∃ v', v = ' ' :: v'

/-- The rules for spacing and the trimming leave a spaced text. -/
theorem spaced_space (s : List Char) : Spaced (space s) := by
  have hsingle := single_replaceAll_blankRun (replaceAll looseConnective s)
  have hapart := (apart_replaceAll_looseConnective s).replaceAll_blankRun
  obtain ⟨b, b', -, -, ht⟩ :=
    exists_blanks_trim (replaceAll blankRun (replaceAll looseConnective s))
  rw [ht] at hsingle hapart
  refine ⟨solid_trim _, fun u x h => isBlank_last_trim h, ?_, ?_, ?_⟩
  · intro u x v h hx
    obtain ⟨rfl, hsolid⟩ := hsingle (b ++ u) x (v ++ b') (by rw [← space, h]; simp) hx
    refine ⟨rfl, ?_⟩
    cases v with
    | nil => exact solid_nil
    | cons y v => exact solid_cons.2 (solid_cons.1 hsolid)
  · intro u c v h
    obtain ⟨⟨-, hfalse⟩ | ⟨u', hu'⟩, -⟩ := hapart (b ++ u) c (v ++ b') (by rw [← space, h]; simp)
    · cases hfalse
    · rcases List.eq_nil_or_concat u with rfl | ⟨w, x, rfl⟩
      · exact .inl rfl
      · have hx : x = ' ' := by simpa using congrArg List.getLast? hu'
        exact .inr ⟨w, by rw [hx, List.concat_eq_append]⟩
  · intro u c v h
    obtain ⟨-, v', hv'⟩ := hapart (b ++ u) c (v ++ b') (by rw [← space, h]; simp)
    cases v with
    | nil => exact .inl rfl
    | cons x v => exact .inr ⟨v, by rw [(List.cons.inj hv').1]⟩

/-- Where a connective stands behind no more than one blank, an occurrence starts at the connective
or at that blank. -/
theorem looseConnective_eq_none {x : Char} {s : List Char}
    (hcons : ∀ (c : Connective) v, x :: s ≠ c.mark :: c.mark :: v)
    (hblank : isBlank x = true → Solid s ∧ ∀ (c : Connective) v, s ≠ c.mark :: c.mark :: v) :
    looseConnective (x :: s) = none := by
  rw [Option.eq_none_iff_forall_ne_some]
  intro o ho
  obtain ⟨-, c, b, b', hb, -, -, hs⟩ := looseConnective_eq_some_iff.1 ho
  cases b with
  | nil => exact hcons _ _ hs
  | cons y b =>
    obtain ⟨rfl, rfl⟩ := List.cons.inj hs
    obtain ⟨hx, hb⟩ := blanks_cons.1 hb
    obtain ⟨hsolid, hmarks⟩ := hblank hx
    cases b with
    | nil => exact hmarks _ _ rfl
    | cons z b =>
      have hz : isBlank z = false := solid_cons.1 hsolid
      rw [(blanks_cons.1 hb).1] at hz
      cases hz

/-- In a quiet text that is spaced, every connective is already loose. -/
theorem replaceAll_looseConnective_eq_self {t : List Char} (ht : Spaced t) (hq : Quiet t)
    (u s : List Char) (hts : t = u ++ s) (hs : ∀ (c : Connective) v, s ≠ c.mark :: c.mark :: v) :
    replaceAll looseConnective s = s := by
  induction hn : s.length using Nat.strongRecOn generalizing u s with
  | _ n ih =>
    subst hn
    cases s with
    | nil => rfl
    | cons x s =>
      cases hx : isBlank x with
      | false =>
        rw [replaceAll_cons_none (looseConnective_eq_none hs (by simp [hx]))]
        rw [ih s.length (by simp) (u ++ [x]) s (by simp [hts]) ?_ rfl]
        rintro c v rfl
        rcases ht.before (u ++ [x]) c v (by simp [hts]) with hnil | ⟨u', hu'⟩
        · simp at hnil
        · have hspace : x = ' ' := by simpa using congrArg List.getLast? hu'
          simp [hspace] at hx
      | true =>
        obtain ⟨rfl, hsolid⟩ := ht.single u x s hts hx
        by_cases hmarks : ∃ (c : Connective) (v : List Char), s = c.mark :: c.mark :: v
        · obtain ⟨c, v, rfl⟩ := hmarks
          rcases ht.after (u ++ [' ']) c v (by simp [hts]) with rfl | ⟨v, rfl⟩
          · exact (hq.ne_trailingConnective blanks_nil (u ++ [' ']) c (by simpa using hts)).elim
          · have hv := (ht.single (u ++ [' ', c.mark, c.mark]) ' ' v (by simp [hts]) (by simp)).2
            have hsome : looseConnective (' ' :: c.mark :: c.mark :: ' ' :: v) =
                some ⟨[' ', c.mark, c.mark, ' '], v⟩ :=
              looseConnective_eq_some_iff.2 ⟨hv, c, [' '], [' '], by simp, by simp, rfl, rfl⟩
            rw [replaceAll_cons_some hsome ⟨[c.mark, c.mark, ' '], rfl⟩]
            rw [ih v.length (by simp; omega) (u ++ [' ', c.mark, c.mark, ' ']) v (by simp [hts])
              ?_ rfl]
            · rfl
            · rintro d w rfl
              exact hq.ne_doubledConnective (b := [' ']) (by simp) (u ++ [' ']) c d w
                (by simpa using hts)
        · have hmarks' : ∀ (c : Connective) v, s ≠ c.mark :: c.mark :: v :=
            fun c v h => hmarks ⟨c, v, h⟩
          rw [replaceAll_cons_none (looseConnective_eq_none hs fun _ => ⟨hsolid, hmarks'⟩)]
          rw [ih s.length (by simp) (u ++ [' ']) s (by simp [hts]) hmarks' rfl]

/-- A quiet text that is spaced stays as it is. -/
theorem space_eq_self {s : List Char} (hs : Spaced s) (hq : Quiet s) : space s = s := by
  have hlead : ∀ (c : Connective) v, s ≠ c.mark :: c.mark :: v :=
    fun c v => hq.ne_leadingConnective blanks_nil c v
  rw [space, replaceAll_looseConnective_eq_self hs hq [] s rfl hlead,
    hs.single.replaceAll_blankRun_eq, trim_eq_self hs.first hs.last]

end RecordFilter.Normal
