import RecordFilter.Proofs.Normal.NormalForm
import RecordFilter.Proofs.Normal.ReadPass

/-!
# Reading a normal form

A text in normal form holds nothing that the reader ignores, so what it collects is the text itself.
With `Reader.read_settled` this says what a filter is normalized to once it is known what is read
from it.

## Main statements

* `NormalForm.read_eq`: what is read from a normal form is the normal form.
* `settled_text_eq_of_read`: the passes bring a filter to what is read from it.
-/

namespace RecordFilter.Normal

open Text

namespace Reader

/-- The text in front of the last open bracket, with the bracket. -/
def inside : List Frame → List Char
  | [] => []
  | f :: outer => inside outer ++ f.front ++ ['(']

/-- The reader has collected all of the text so far, and does not stand in the middle of a
connective or of the blanks around it. -/
inductive Tracks : Reader → List Char → Prop
  | fresh (outer : List Frame) : Tracks ⟨outer, none, .fresh⟩ (inside outer)
  | operand (outer : List Frame) (d : List Char) {x : Char} {ph : Phase}
      (hph : ph = .word ∨ ph = .closed) (hx : isBlank x = false) :
      Tracks ⟨outer, some (d ++ [x]), ph⟩ (inside outer ++ (d ++ [x]))
  | joint (outer : List Frame) (d : List Char) (c : Connective) :
      Tracks ⟨outer, some d, .joint c⟩ (inside outer ++ d ++ [' ', c.mark, c.mark, ' '])

theorem inside_eq (outer : List Frame) : inside outer = [] ∨ ∃ w, inside outer = w ++ ['('] := by
  cases outer with
  | nil => exact .inl rfl
  | cons f outer => exact .inr ⟨_, rfl⟩

variable {σ : Reader} {r u v : List Char}

/-- Behind the first mark of a connective comes the second one. -/
theorem exists_mark_of_half {c : Connective} (h : σ.phase = .half c) (hread : σ.read v = some r) :
    ∃ v', v = c.mark :: v' := by
  cases v with
  | nil =>
    rw [read_half_blanks h blanks_nil] at hread
    cases hread
  | cons x v =>
    rw [read_cons] at hread
    obtain ⟨σ', hstep, -⟩ := Option.bind_eq_some_iff.1 hread
    exact ⟨v, by rw [eq_mark_of_half hstep h]⟩

/-- Behind a blank comes a connective or the end of the text. -/
theorem exists_connective_of_gap (h : σ.phase = .gap) (hread : σ.read v = some r) (hv : Solid v) :
    v = [] ∨ ∃ (c : Connective) (v' : List Char), v = c.mark :: c.mark :: v' := by
  cases v with
  | nil => exact .inl rfl
  | cons x v =>
    rw [read_cons] at hread
    obtain ⟨σ', hstep, hread⟩ := Option.bind_eq_some_iff.1 hread
    refine .inr ?_
    cases stepped hstep with
    | blank hx =>
      rw [solid_cons.1 hv] at hx
      cases hx
    | openBracket hσ =>
      rw [Expecting, h] at hσ
      simp at hσ
    | closeBracket _ hgap => exact absurd h hgap
    | firstMark c =>
      obtain ⟨v', rfl⟩ := exists_mark_of_half rfl hread
      exact ⟨c, v', rfl⟩
    | secondMark hσ =>
      rw [h] at hσ
      cases hσ
    | operand _ hσ =>
      rw [Expecting, h] at hσ
      simp at hσ

end Reader

open Reader

variable {σ : Reader} {r s t u v : List Char}

theorem NormalForm.solid_behind_blank (ht : NormalForm t) {x : Char} (h : t = u ++ x :: v)
    (hx : isBlank x = true) : x = ' ' ∧ v ≠ [] ∧ Solid v := by
  obtain ⟨hspace, hnext⟩ := ht.single_spaces u x v h hx
  cases v with
  | nil =>
    rw [ht.no_trailing_blank u x h] at hx
    cases hx
  | cons y v => exact ⟨hspace, by simp, solid_cons.2 (hnext y v rfl)⟩

/-- At the start of the text or of a bracket stands no connective. -/
theorem NormalForm.ne_connective_inside (ht : NormalForm t) (outer : List Frame) {b : List Char}
    (hb : Blanks b) (c : Connective) (v : List Char) :
    t ≠ inside outer ++ (b ++ c.mark :: c.mark :: v) := by
  intro h
  rcases inside_eq outer with hw | ⟨w, hw⟩
  · exact ht.no_leading_connective b c v hb (by simp [h, hw, Connective.toList_symbol])
  · exact ht.no_connective_after_open w b c v hb (by simp [h, hw, Connective.toList_symbol])

/-- At the start of the text or of a bracket stands no blank. -/
theorem NormalForm.ne_blank_inside (ht : NormalForm t) {outer : List Frame} {x : Char}
    (h : t = inside outer ++ x :: v) (hx : isBlank x = true)
    (hread : Reader.read ⟨outer, none, .gap⟩ v = some r) : False := by
  obtain ⟨rfl, hne, hsolid⟩ := ht.solid_behind_blank h hx
  rcases exists_connective_of_gap rfl hread hsolid with hnil | ⟨c, v', rfl⟩
  · exact hne hnil
  · exact ht.ne_connective_inside outer (b := [' ']) (by simp) c v' (by simpa using h)

/-- A blank behind an operand or a bracket belongs to a connective. -/
theorem NormalForm.exists_connective (ht : NormalForm t) {x : Char} (h : t = u ++ x :: v)
    (hx : isBlank x = true) (hgap : σ.phase = .gap) (hread : σ.read v = some r) :
    ∃ (c : Connective) (v' : List Char), x :: v = ' ' :: c.mark :: c.mark :: ' ' :: v' := by
  obtain ⟨rfl, hne, hsolid⟩ := ht.solid_behind_blank h hx
  rcases exists_connective_of_gap hgap hread hsolid with hnil | ⟨c, v', rfl⟩
  · exact absurd hnil hne
  · obtain ⟨-, -, y, w, -, rfl, -⟩ := ht.spaced_connective (u ++ [' ']) c v'
      (by simp [h, Connective.toList_symbol])
    exact ⟨c, _, rfl⟩

/-! ## One step -/

theorem NormalForm.tracks_fresh (ht : NormalForm t) {outer : List Frame} {x : Char}
    (h : t = inside outer ++ x :: v)
    (hread : Reader.read ⟨outer, none, .fresh⟩ (x :: v) = some r) :
    ∃ σ, Tracks σ (inside outer ++ [x]) ∧ σ.read v = some r := by
  rw [read_cons] at hread
  obtain ⟨σ, hstep, hread⟩ := Option.bind_eq_some_iff.1 hread
  cases stepped hstep with
  | blank hx =>
    simp only [step_blank hx, blank, Option.some.injEq, Reader.mk.injEq, true_and] at hstep
    subst hstep
    exact (ht.ne_blank_inside h hx hread).elim
  | openBracket =>
    exact ⟨_, by simpa [inside, front] using Tracks.fresh (⟨none, []⟩ :: outer), hread⟩
  | @closeBracket f outer' _ _ houter =>
    dsimp only at houter
    subst houter
    exact (ht.no_empty_group (inside outer' ++ f.front) [] v blanks_nil (by simp [h, inside])).elim
  | firstMark c =>
    obtain ⟨v', rfl⟩ := exists_mark_of_half rfl hread
    exact (ht.ne_connective_inside outer blanks_nil c v' h).elim
  | secondMark hσ => cases hσ
  | operand hx => exact ⟨_, Tracks.operand outer [] (.inl rfl) (isBlank_of_isPlain hx), hread⟩

theorem NormalForm.tracks_operand (ht : NormalForm t) {outer : List Frame} {d : List Char}
    {x y : Char} {ph : Phase} (hph : ph = .word ∨ ph = .closed) (hy : isBlank y = false)
    (h : t = inside outer ++ (d ++ [y]) ++ x :: v)
    (hread : Reader.read ⟨outer, some (d ++ [y]), ph⟩ (x :: v) = some r) :
    ∃ σ w v', x :: v = w ++ v' ∧ w ≠ [] ∧ Tracks σ (inside outer ++ (d ++ [y]) ++ w) ∧
      σ.read v' = some r := by
  have hwhole : Reader.Whole ⟨outer, some (d ++ [y]), ph⟩ := by
    rcases hph with rfl | rfl <;> simp [Whole]
  have hfront : Reader.front ⟨outer, some (d ++ [y]), ph⟩ = d ++ [y] := by
    rcases hph with rfl | rfl <;> rfl
  have hread' := hread
  rw [read_cons] at hread'
  obtain ⟨σ, hstep, hread'⟩ := Option.bind_eq_some_iff.1 hread'
  cases stepped hstep with
  | blank hx =>
    have hgap : Reader.read ⟨outer, some (d ++ [y]), .gap⟩ v = some r := by
      rw [step_blank hx] at hstep
      rcases hph with rfl | rfl <;> cases hstep <;> exact hread'
    obtain ⟨c, v', hv⟩ := ht.exists_connective h hx rfl hgap
    have hspace : Blanks [' '] := by simp
    have hrun := hwhole.run_connective hspace hspace c v'
    rw [hv] at hread ⊢
    refine ⟨_, [' ', c.mark, c.mark, ' '], v', rfl, by simp, .joint outer _ c, ?_⟩
    exact (read_congr hrun).symm.trans hread
  | openBracket hσ => rcases hph with rfl | rfl <;> simp [Expecting] at hσ
  | @closeBracket f outer' _ _ houter =>
    dsimp only at houter
    subst houter
    refine ⟨_, [')'], v, rfl, by simp, ?_, hread'⟩
    simpa [inside, Frame.enclose] using
      Tracks.operand outer' (f.front ++ '(' :: (d ++ [y])) (.inr rfl) isBlank_close
  | firstMark c =>
    obtain ⟨v', rfl⟩ := exists_mark_of_half rfl hread'
    obtain ⟨u', x', y', w, hu, -⟩ := ht.spaced_connective (inside outer ++ (d ++ [y])) c v'
      (by simp [h, Connective.toList_symbol])
    have hlast : y = ' ' := by simpa using congrArg List.getLast? hu
    simp [hlast] at hy
  | secondMark hσ => rcases hph with rfl | rfl <;> cases hσ
  | operand hx =>
    refine ⟨_, [x], v, rfl, by simp, ?_, hread'⟩
    rw [hfront]
    simpa using
      Tracks.operand outer (d ++ [y]) (.inl rfl) (isBlank_of_isPlain hx)

theorem NormalForm.tracks_joint (ht : NormalForm t) {outer : List Frame} {d : List Char}
    {c : Connective} {x : Char}
    (h : t = inside outer ++ d ++ [' ', c.mark, c.mark, ' '] ++ x :: v)
    (hread : Reader.read ⟨outer, some d, .joint c⟩ (x :: v) = some r) :
    ∃ σ, Tracks σ (inside outer ++ d ++ [' ', c.mark, c.mark, ' '] ++ [x]) ∧ σ.read v = some r := by
  have hspace : Blanks [' '] := by simp
  rw [read_cons] at hread
  obtain ⟨σ, hstep, hread⟩ := Option.bind_eq_some_iff.1 hread
  cases stepped hstep with
  | blank hx =>
    obtain ⟨-, -, hsolid⟩ := ht.solid_behind_blank (u := inside outer ++ d ++ [' ', c.mark, c.mark])
      (x := ' ') (v := x :: v) (by simp [h]) (by simp)
    rw [solid_cons.1 hsolid] at hx
    cases hx
  | openBracket =>
    refine ⟨_, ?_, hread⟩
    simpa [inside, front, Connective.toList_spaced] using
      Tracks.fresh (⟨some d, d ++ c.spaced.toList⟩ :: outer)
  | closeBracket =>
    exact (ht.no_connective_before_close (inside outer ++ d ++ [' ']) c [' '] v hspace
      (by simp [h, Connective.toList_symbol])).elim
  | firstMark e =>
    obtain ⟨v', rfl⟩ := exists_mark_of_half rfl hread
    exact (ht.no_connective_beside_connective (inside outer ++ d ++ [' ']) c [' '] e v' hspace
      (by simp [h, Connective.toList_symbol])).elim
  | secondMark hσ => cases hσ
  | operand hx =>
    refine ⟨_, ?_, hread⟩
    simpa [front, Connective.toList_spaced] using
      Tracks.operand outer (d ++ c.spaced.toList) (.inl rfl) (isBlank_of_isPlain hx)

/-- A reader that has collected all of a normal form so far goes on to do so. -/
theorem NormalForm.exists_tracks (ht : NormalForm t) {x : Char} (hσ : Tracks σ u)
    (h : t = u ++ x :: v) (hread : σ.read (x :: v) = some r) :
    ∃ σ' w v', x :: v = w ++ v' ∧ w ≠ [] ∧ Tracks σ' (u ++ w) ∧ σ'.read v' = some r := by
  cases hσ with
  | fresh outer =>
    obtain ⟨σ', hσ', hread'⟩ := ht.tracks_fresh h hread
    exact ⟨σ', [x], v, rfl, by simp, hσ', hread'⟩
  | operand outer d hph hx => exact ht.tracks_operand hph hx h hread
  | joint outer d c =>
    obtain ⟨σ', hσ', hread'⟩ := ht.tracks_joint h hread
    exact ⟨σ', [x], v, rfl, by simp, hσ', hread'⟩

/-! ## The whole text -/

theorem NormalForm.finish_eq (ht : NormalForm t) (hσ : Tracks σ t) (h : σ.finish = some r) :
    r = t := by
  cases hσ with
  | fresh outer =>
    cases outer with
    | nil =>
      cases h
      rfl
    | cons f outer => cases h
  | operand outer d hph hx =>
    cases outer with
    | nil => rcases hph with rfl | rfl <;> cases h <;> simp [inside]
    | cons f outer => cases h
  | joint outer d c =>
    exact (ht.no_trailing_connective (inside outer ++ d ++ [' ']) c [' '] (by simp)
      (by simp [Connective.toList_symbol])).elim

theorem NormalForm.read_eq_of_tracks (ht : NormalForm t) (hσ : Tracks σ u) (h : t = u ++ v)
    (hread : σ.read v = some r) : r = t := by
  induction hn : v.length using Nat.strongRecOn generalizing σ u v with
  | _ n ih =>
    cases v with
    | nil =>
      rw [List.append_nil] at h
      subst h
      exact ht.finish_eq hσ hread
    | cons x v =>
      obtain ⟨σ', w, v', hw, hne, hσ', hread'⟩ := ht.exists_tracks hσ h hread
      rw [hw] at h hn
      have hlen : 0 < w.length := List.length_pos_iff.2 hne
      rw [List.length_append] at hn
      exact ih v'.length (by omega) hσ' (by rw [h, List.append_assoc]) hread' rfl

/-- What is read from a normal form is the normal form. -/
theorem NormalForm.read_eq (ht : NormalForm t) (hread : start.read t = some r) : r = t :=
  ht.read_eq_of_tracks (.fresh []) rfl hread

/-- The passes bring a filter to what is read from it. -/
theorem settled_text_eq_of_read {raw : List Char} (h : start.read (shield raw).text = some r) :
    (settled raw).text = r :=
  ((normalForm_settled raw).read_eq (read_settled h)).symm

end RecordFilter.Normal
