import Mathlib.Logic.Relation
import RecordFilter.Proofs.Normal.AlikePass

/-!
# Spacing makes no difference

The spacing of a filter may be changed at any number of places: a run of blanks may give way to any
other run that is not empty. If all marks of two filters make up connectives, the blanks beside
these may also come and go. None of this changes what the filter is normalized to.

A change keeps the *skeleton* of a text: the characters between its blanks, each with a flag that
says whether blanks stand in front of it that count. Texts with the same skeleton are alike.

## Main statements

* `skeletonFrom_eq_of_respaces`: a change of the spacing keeps the skeleton.
* `alike_of_skeletonFrom_eq`: texts with the same skeleton are alike.
* `normalize_respaced`: filters that differ in their spacing have the same normal form.
-/

namespace RecordFilter

namespace Normal

open Text

/-! ## Runs of marks -/

/-- Between `u` and `v` stands a run of marks that goes on to neither side. -/
structure IsMarkRun (u r v : List Char) : Prop where
  ne_nil : r ≠ []
  marks : ∀ x ∈ r, isMark x = true
  before : ∀ x, u.getLast? = some x → isMark x = false
  behind : ∀ x, v.head? = some x → isMark x = false

/-- Every maximal run of marks is a connective. -/
def OnlyConnectives (s : List Char) : Prop :=
  ∀ u r v, s = u ++ r ++ v → IsMarkRun u r v → ∃ c : Connective, r = c.symbol.toList

section
variable {b r s u v : List Char} {x : Char}

theorem exists_mark (hx : isMark x = true) : ∃ c : Connective, x = c.mark := by
  simp only [isMark, Bool.or_eq_true, beq_iff_eq] at hx
  rcases hx with rfl | rfl
  · exact ⟨.and, rfl⟩
  · exact ⟨.or, rfl⟩

theorem isMarkRun_cons (hx : isMark x = false) : IsMarkRun (x :: u) r v ↔ IsMarkRun u r v := by
  have hlast : (∀ y, (x :: u).getLast? = some y → isMark y = false) ↔
      ∀ y, u.getLast? = some y → isMark y = false := by
    cases u <;> simp [hx]
  constructor
  · rintro ⟨hne, hmarks, hbefore, hbehind⟩
    exact ⟨hne, hmarks, hlast.1 hbefore, hbehind⟩
  · rintro ⟨hne, hmarks, hbefore, hbehind⟩
    exact ⟨hne, hmarks, hlast.2 hbefore, hbehind⟩

theorem takeWhile_isMark_eq_nil (h : ∀ x, v.head? = some x → isMark x = false) :
    v.takeWhile isMark = [] := by
  cases v with
  | nil => rfl
  | cons y v => simp [h y rfl]

theorem IsMarkRun.takeWhile_append (h : IsMarkRun u r v) : (r ++ v).takeWhile isMark = r := by
  rw [List.takeWhile_append_of_pos h.marks, takeWhile_isMark_eq_nil h.behind, List.append_nil]

theorem onlyConnectives_nil : OnlyConnectives [] := by
  intro u r v hs hrun
  have hr : r = [] := by simp_all
  exact absurd hr hrun.ne_nil

/-- No run of marks goes through another character. -/
theorem onlyConnectives_cons (hx : isMark x = false) :
    OnlyConnectives (x :: s) ↔ OnlyConnectives s := by
  constructor
  · intro h u r v hs hrun
    exact h (x :: u) r v (by simp [hs]) ((isMarkRun_cons hx).2 hrun)
  · intro h u r v hs hrun
    cases u with
    | nil =>
      obtain ⟨y, r, rfl⟩ := List.exists_cons_of_ne_nil hrun.ne_nil
      have hy := hrun.marks y (by simp)
      rw [← (List.cons.inj hs).1, hx] at hy
      cases hy
    | cons y u =>
      obtain ⟨rfl, htail⟩ := List.cons.inj hs
      exact h u r v htail ((isMarkRun_cons hx).1 hrun)

/-- A run that starts with a mark is one connective. -/
theorem onlyConnectives_mark (hx : isMark x = true) : OnlyConnectives (x :: s) ↔
    ∃ v, s = x :: v ∧ (∀ y, v.head? = some y → isMark y = false) ∧ OnlyConnectives v := by
  constructor
  · intro h
    have hsplit : x :: s = [] ++ (x :: s).takeWhile isMark ++ (x :: s).dropWhile isMark := by simp
    have hbehind : ∀ y, ((x :: s).dropWhile isMark).head? = some y → isMark y = false := by
      intro y hy
      simpa [hy] using List.head?_dropWhile_not isMark (x :: s)
    obtain ⟨c, hc⟩ := h _ _ _ hsplit ⟨by simp [hx], List.all_eq_true.1 List.all_takeWhile, nofun,
      hbehind⟩
    generalize (x :: s).dropWhile isMark = v at hsplit hbehind
    rw [hc, Connective.toList_symbol] at hsplit
    obtain ⟨rfl, rfl⟩ := List.cons.inj hsplit
    refine ⟨v, rfl, hbehind, fun u r w hv hrun => ?_⟩
    refine h (c.mark :: c.mark :: u) r w (by simp [hv]) ⟨hrun.ne_nil, hrun.marks, ?_, hrun.behind⟩
    cases u with
    | nil =>
      obtain ⟨y, r, rfl⟩ := List.exists_cons_of_ne_nil hrun.ne_nil
      have hy := hbehind y (by simp [hv])
      rw [hrun.marks y (by simp)] at hy
      cases hy
    | cons y u => simpa using hrun.before
  · rintro ⟨v, rfl, hbehind, h⟩ u r w hs hrun
    obtain ⟨c, rfl⟩ := exists_mark hx
    rcases u with _ | ⟨y, _ | ⟨z, u⟩⟩
    · have hrow : c.mark :: c.mark :: v = r ++ w := hs
      refine ⟨c, ?_⟩
      rw [Connective.toList_symbol, ← hrun.takeWhile_append, ← hrow]
      simp [takeWhile_isMark_eq_nil hbehind]
    · obtain ⟨rfl, -⟩ := List.cons.inj hs
      simpa using hrun.before c.mark rfl
    · obtain ⟨rfl, htail⟩ := List.cons.inj hs
      obtain ⟨rfl, hv⟩ := List.cons.inj htail
      refine h u r w hv ⟨hrun.ne_nil, hrun.marks, ?_, hrun.behind⟩
      cases u with
      | nil => nofun
      | cons y u => simpa using hrun.before

/-- Do the marks of the text make up connectives, none of them beside another one? -/
def readsConnectives : List Char → Bool
  | [] => true
  | [x] => !isMark x
  | x :: y :: s =>
    if isMark x then x == y && !s.head?.any isMark && readsConnectives s
    else readsConnectives (y :: s)

theorem onlyConnectives_iff_reads {s : List Char} :
    OnlyConnectives s ↔ readsConnectives s = true := by
  fun_induction readsConnectives s with
  | case1 => simp [onlyConnectives_nil]
  | case2 x =>
    cases hx : isMark x with
    | false => simp [onlyConnectives_cons hx, onlyConnectives_nil]
    | true => simp [onlyConnectives_mark hx]
  | case3 x y s hx ih =>
    have hhead : (∀ z, s.head? = some z → isMark z = false) ↔ s.head?.any isMark = false := by
      cases s <;> simp
    rw [onlyConnectives_mark hx, Bool.and_eq_true, Bool.and_eq_true, Bool.not_eq_true', beq_iff_eq,
      ← hhead, ← ih]
    constructor
    · rintro ⟨v, hs, hbehind, hv⟩
      obtain ⟨rfl, rfl⟩ := List.cons.inj hs
      exact ⟨⟨rfl, hbehind⟩, hv⟩
    · rintro ⟨⟨rfl, hbehind⟩, hs⟩
      exact ⟨s, rfl, hbehind, hs⟩
  | case4 x y s hx ih =>
    rw [onlyConnectives_cons (by simpa using hx), ih]

instance (s : List Char) : Decidable (OnlyConnectives s) :=
  decidable_of_iff (readsConnectives s = true) onlyConnectives_iff_reads.symm

end

/-! ## Changes of the spacing -/

/-- One change of the spacing. In a loose reading, the blanks beside a connective are free. -/
inductive Respaces (loose : Bool) : List Char → List Char → Prop
  | blanks (u v : List Char) {b b' : List Char} (hb : Blanks b) (hb' : Blanks b') (hne : b ≠ [])
      (hne' : b' ≠ []) : Respaces loose (u ++ b ++ v) (u ++ b' ++ v)
  | before (u v : List Char) {b b' : List Char} (hb : Blanks b) (hb' : Blanks b') (c : Connective)
      (hloose : loose = true) :
      Respaces loose (u ++ b ++ c.symbol.toList ++ v) (u ++ b' ++ c.symbol.toList ++ v)
  | behind (u v : List Char) {b b' : List Char} (hb : Blanks b) (hb' : Blanks b') (c : Connective)
      (hloose : loose = true) :
      Respaces loose (u ++ c.symbol.toList ++ b ++ v) (u ++ c.symbol.toList ++ b' ++ v)

/-- The characters between the blanks, each with a flag that says whether blanks in front of it
count; the last entry stands for the end of the text. In a loose reading, blanks behind a mark
(`after`) and in front of one do not count. `gap` says that blanks have just been passed over. -/
def skeletonFrom (loose : Bool) : (after gap : Bool) → List Char → List (Bool × Option Char)
  | after, gap, [] => [(gap && !after, none)]
  | after, gap, x :: s =>
    if isBlank x then skeletonFrom loose after true s
    else (gap && !(after || loose && isMark x), some x) ::
      skeletonFrom loose (loose && isMark x) false s

section
variable {loose after gap : Bool} {b s t : List Char} {x : Char}

theorem skeletonFrom_cons (hx : isBlank x = false) :
    skeletonFrom loose after gap (x :: s) = (gap && !(after || loose && isMark x), some x) ::
      skeletonFrom loose (loose && isMark x) false s := by
  simp [skeletonFrom, hx]

theorem skeletonFrom_blanks (hb : Blanks b) :
    skeletonFrom loose after gap (b ++ s) = skeletonFrom loose after (gap || !b.isEmpty) s := by
  induction b generalizing gap with
  | nil => simp
  | cons x b ih =>
    obtain ⟨hx, hb⟩ := blanks_cons.1 hb
    simp [skeletonFrom, hx, ih hb]

/-- Behind a mark, blanks do not count. -/
theorem skeletonFrom_true (gap gap' : Bool) (s : List Char) :
    skeletonFrom loose true gap s = skeletonFrom loose true gap' s := by
  cases s with
  | nil => simp [skeletonFrom]
  | cons x s => cases hx : isBlank x <;> simp [skeletonFrom, hx]

theorem skeletonFrom_mark (c : Connective) (s : List Char) :
    skeletonFrom true after gap (c.mark :: s) =
      (false, some c.mark) :: skeletonFrom true true false s := by
  simp [skeletonFrom_cons]

theorem skeletonFrom_append_congr
    (h : ∀ after gap, skeletonFrom loose after gap s = skeletonFrom loose after gap t)
    (u : List Char) (after gap : Bool) :
    skeletonFrom loose after gap (u ++ s) = skeletonFrom loose after gap (u ++ t) := by
  induction u generalizing after gap with
  | nil => exact h after gap
  | cons x u ih => cases hx : isBlank x <;> simp [skeletonFrom, hx, ih]

/-- A change of the spacing keeps the skeleton. -/
theorem skeletonFrom_eq_of_respaces (h : Respaces loose s t) :
    skeletonFrom loose after gap s = skeletonFrom loose after gap t := by
  cases h with
  | @blanks u v b b' hb hb' hne hne' =>
    rw [List.append_assoc, List.append_assoc]
    refine skeletonFrom_append_congr (fun after gap => ?_) u after gap
    rw [skeletonFrom_blanks hb, skeletonFrom_blanks hb']
    simp [List.isEmpty_eq_false_iff.2 hne, List.isEmpty_eq_false_iff.2 hne']
  | @before u v b b' hb hb' c hloose =>
    subst hloose
    simp only [List.append_assoc]
    refine skeletonFrom_append_congr (fun after gap => ?_) u after gap
    rw [skeletonFrom_blanks hb, skeletonFrom_blanks hb', Connective.toList_symbol]
    simp [skeletonFrom_mark]
  | @behind u v b b' hb hb' c hloose =>
    subst hloose
    simp only [List.append_assoc]
    refine skeletonFrom_append_congr (fun after gap => ?_) u after gap
    simp only [Connective.toList_symbol, List.cons_append, List.nil_append, skeletonFrom_mark,
      skeletonFrom_blanks hb, skeletonFrom_blanks hb']
    rw [skeletonFrom_true]

theorem onlyConnectives_of_blanks_append (hb : Blanks b) (h : OnlyConnectives (b ++ s)) :
    OnlyConnectives s := by
  induction b with
  | nil => exact h
  | cons x b ih =>
    obtain ⟨hx, hb⟩ := blanks_cons.1 hb
    exact ih hb ((onlyConnectives_cons (isMark_of_isBlank hx)).1 h)

theorem gaps_of_flag_eq {free : Bool} {b b' : List Char} (hb : Blanks b) (hb' : Blanks b')
    (h : (!b.isEmpty && !free) = (!b'.isEmpty && !free)) : Gaps free b b' := by
  refine ⟨hb, hb', ?_⟩
  cases free with
  | true => exact .inl rfl
  | false => cases b <;> cases b' <;> simp_all

/-- Texts with the same skeleton hold nothing but blanks, or the same character stands first in both
behind gaps that count as the same. -/
theorem skeletonFrom_eq_cases
    (h : skeletonFrom loose after false s = skeletonFrom loose after false t) :
    Gaps after s t ∨ ∃ x b b' p q, isBlank x = false ∧ s = b ++ x :: p ∧ t = b' ++ x :: q ∧
      Gaps (after || loose && isMark x) b b' ∧
      skeletonFrom loose (loose && isMark x) false p =
        skeletonFrom loose (loose && isMark x) false q := by
  obtain ⟨b, hb, hs⟩ := exists_blanks_skipBlanks s
  obtain ⟨b', hb', ht⟩ := exists_blanks_skipBlanks t
  have hsolid := solid_skipBlanks s
  have hsolid' := solid_skipBlanks t
  rw [hs, ht, skeletonFrom_blanks hb, skeletonFrom_blanks hb', Bool.false_or, Bool.false_or] at h
  cases hp : skipBlanks s with
  | nil =>
    cases hq : skipBlanks t with
    | nil =>
      rw [hp, hq] at h
      have hgaps := gaps_of_flag_eq hb hb' (Prod.mk.inj (List.cons.inj h).1).1
      rw [hs, ht, hp, hq, List.append_nil, List.append_nil]
      exact .inl hgaps
    | cons y q =>
      rw [hq, solid_cons] at hsolid'
      rw [hp, hq, skeletonFrom_cons hsolid'] at h
      simp [skeletonFrom] at h
  | cons x p =>
    rw [hp, solid_cons] at hsolid
    rw [hp, skeletonFrom_cons hsolid] at h
    cases hq : skipBlanks t with
    | nil => simp [hq, skeletonFrom] at h
    | cons y q =>
      rw [hq, solid_cons] at hsolid'
      rw [hq, skeletonFrom_cons hsolid'] at h
      obtain ⟨hfirst, htail⟩ := List.cons.inj h
      obtain ⟨hflag, hchar⟩ := Prod.mk.inj hfirst
      obtain rfl : x = y := Option.some.inj hchar
      exact .inr ⟨x, b, b', p, q, hsolid, hs.trans (by rw [hp]), ht.trans (by rw [hq]),
        gaps_of_flag_eq hb hb' hflag, htail⟩

/-- Texts with the same skeleton are alike, in a loose reading if their marks make up connectives.
-/
theorem alike_of_skeletonFrom_eq (hs : loose = true → OnlyConnectives s)
    (ht : loose = true → OnlyConnectives t)
    (h : skeletonFrom loose after false s = skeletonFrom loose after false t) :
    Alike loose after s t := by
  induction hn : s.length using Nat.strongRecOn generalizing after s t with
  | _ n ih =>
    subst hn
    rcases skeletonFrom_eq_cases h with hgaps | ⟨x, b, b', p, q, hx, rfl, rfl, hgaps, htail⟩
    · exact .nil hgaps
    replace hs := fun hloose => onlyConnectives_of_blanks_append hgaps.first (hs hloose)
    replace ht := fun hloose => onlyConnectives_of_blanks_append hgaps.second (ht hloose)
    cases hmark : loose && isMark x with
    | false =>
      rw [hmark] at htail
      rw [hmark, Bool.or_false] at hgaps
      have hchar : loose = true → isMark x = false := by
        rintro rfl
        exact hmark
      refine .char hx hchar hgaps (ih p.length (by simp; omega) ?_ ?_ htail rfl)
      · exact fun hloose => (onlyConnectives_cons (hchar hloose)).1 (hs hloose)
      · exact fun hloose => (onlyConnectives_cons (hchar hloose)).1 (ht hloose)
    | true =>
      -- the mark is the first half of a connective in both texts
      obtain ⟨rfl, hx'⟩ := Bool.and_eq_true_iff.1 hmark
      obtain ⟨v, rfl, -, hv⟩ := (onlyConnectives_mark hx').1 (hs rfl)
      obtain ⟨w, rfl, -, hw⟩ := (onlyConnectives_mark hx').1 (ht rfl)
      obtain ⟨c, rfl⟩ := exists_mark hx'
      rw [hmark, skeletonFrom_mark, skeletonFrom_mark] at htail
      refine .connective c (hgaps.mono fun _ => by simp) ?_
      exact ih v.length (by simp; omega) (fun _ => hv) (fun _ => hw) (List.cons.inj htail).2 rfl

theorem skeletonFrom_eq_of_reflTransGen (h : Relation.ReflTransGen (Respaces loose) s t) :
    skeletonFrom loose after gap s = skeletonFrom loose after gap t := by
  induction h with
  | refl => rfl
  | tail _ hstep ih => exact ih.trans (skeletonFrom_eq_of_respaces hstep)

end

end Normal

open RecordFilter.Normal

/-- Filters with the same literals have the same normal form if they differ only in their spacing.
If all marks of both make up connectives, blanks beside a connective may come and go. -/
theorem normalize_respaced {loose : Bool} {r s : String} (hr : sentinel ∉ r.toList)
    (hs : sentinel ∉ s.toList) (hlits : literals r.toList = literals s.toList)
    (hmarks : loose = true →
      OnlyConnectives (shield r.toList).text ∧ OnlyConnectives (shield s.toList).text)
    (h : Relation.ReflTransGen (Respaces loose) (shield r.toList).text (shield s.toList).text) :
    normalize r = normalize s := by
  have halike : Alike loose false (shield r.toList).text (shield s.toList).text :=
    alike_of_skeletonFrom_eq (fun hloose => (hmarks hloose).1) (fun hloose => (hmarks hloose).2)
      (skeletonFrom_eq_of_reflTransGen h)
  have hshield : (shield r.toList).literals = (shield s.toList).literals := by
    rwa [shield, if_neg hr, shield, if_neg hs]
  rw [normalize, normalizeChars_eq_of_alike hshield halike, normalize]

/-- A blank before a connective, and other blanks between a field and its operator. -/
theorem normalize_respaced_twice :
    normalize "(a=\"&\"&&b  = 1" = normalize "(a=\"&\" &&b\u2003= 1" := by
  have hspace : Text.Blanks [' '] := by simp
  have hspaces : Text.Blanks [' ', ' '] := by simp
  have hquad : Text.isBlank '\u2003' = true := by decide
  have hfirst : Respaces true
      ("(a=\ue0000\ue000".toList ++ [] ++ Connective.and.symbol.toList ++ "b  = 1".toList)
      ("(a=\ue0000\ue000".toList ++ [' '] ++ Connective.and.symbol.toList ++ "b  = 1".toList) :=
    .before _ _ Text.blanks_nil hspace .and rfl
  have hsecond : Respaces true
      ("(a=\ue0000\ue000 &&b".toList ++ [' ', ' '] ++ "= 1".toList)
      ("(a=\ue0000\ue000 &&b".toList ++ ['\u2003'] ++ "= 1".toList) :=
    .blanks _ _ hspaces (by simp [hquad]) (by simp) (by simp)
  refine @normalize_respaced true _ _ (by decide) (by decide) (by decide +kernel)
    (fun _ => by decide +kernel) ?_
  have htext : (shield "(a=\"&\"&&b  = 1".toList).text =
      "(a=\ue0000\ue000".toList ++ [] ++ Connective.and.symbol.toList ++ "b  = 1".toList := by
    decide +kernel
  have hmiddle : "(a=\ue0000\ue000".toList ++ [' '] ++ Connective.and.symbol.toList ++
      "b  = 1".toList = "(a=\ue0000\ue000 &&b".toList ++ [' ', ' '] ++ "= 1".toList := by
    decide +kernel
  have htext' : (shield "(a=\"&\" &&b\u2003= 1".toList).text =
      "(a=\ue0000\ue000 &&b".toList ++ ['\u2003'] ++ "= 1".toList := by decide +kernel
  rw [htext, htext']
  exact .head hfirst (hmiddle ▸ .single hsecond)

end RecordFilter
