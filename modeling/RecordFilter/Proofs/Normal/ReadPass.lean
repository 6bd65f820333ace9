import RecordFilter.Proofs.Normal.Reader
import RecordFilter.Proofs.Normal.Settle

/-!
# Reading through a pass

The rules remove what the reader ignores: empty brackets, connectives that another one follows, and
connectives with nothing on one side. So a text that can be read can still be read after a pass, and
the reader collects the same from it.

## Main statements

* `read_replaceAll`: two readers kept in step over a text and its replacement.
* `read_rulePass`, `read_settled`: a pass does not change what is read.
-/

namespace RecordFilter.Normal

namespace Reader

open Text

/-- Two readers go over a text and over what a pattern makes of it. If a relation between them lasts
while characters stay, and can be restored behind every occurrence, they collect the same. -/
theorem read_replaceAll {p : Pattern} (hp : Covers p) {R : Reader → Reader → List Char → Prop}
    (nil : ∀ {σ τ r}, R σ τ [] → σ.finish = some r → τ.finish = some r)
    (keep : ∀ {σ τ σ' x s}, R σ τ (x :: s) → p (x :: s) = none → σ.step x = some σ' →
      ∃ τ', τ.step x = some τ' ∧ R σ' τ' s)
    (swap : ∀ {σ τ s o r}, R σ τ s → p s = some o → σ.read s = some r →
      ∃ σ' τ', σ'.read o.rest = some r ∧ τ.run o.new = some τ' ∧ R σ' τ' o.rest)
    {σ τ : Reader} {s r : List Char} (hR : R σ τ s) (h : σ.read s = some r) :
    τ.read (replaceAll p s) = some r := by
  refine replaceAll_induction hp.consumes
    (motive := fun s t => ∀ σ τ, R σ τ s → σ.read s = some r → τ.read t = some r)
    ?_ ?_ ?_ s σ τ hR h
  · intro σ τ hR h
    exact nil hR h
  · intro x s hx ih σ τ hR h
    rw [read_cons] at h ⊢
    obtain ⟨σ', hstep, hread⟩ := Option.bind_eq_some_iff.1 h
    obtain ⟨τ', hstep', hR'⟩ := keep hR hx hstep
    rw [hstep', Option.bind_some]
    exact ih σ' τ' hR' hread
  · intro x s o ho ih σ τ hR h
    obtain ⟨σ', τ', hread, hrun, hR'⟩ := swap hR ho h
    rw [read_append, hrun, Option.bind_some]
    exact ih σ' τ' hR' hread

/-- One reader that goes over a text and over what a pattern makes of it, with an invariant. -/
theorem read_replaceAll_of_invariant {p : Pattern} (hp : Covers p) {I : Reader → List Char → Prop}
    (keep : ∀ {σ σ' x s}, I σ (x :: s) → p (x :: s) = none → σ.step x = some σ' → I σ' s)
    (swap : ∀ {σ s o r}, I σ s → p s = some o → σ.read s = some r →
      ∃ σ', σ'.read o.rest = some r ∧ σ.run o.new = some σ' ∧ I σ' o.rest)
    {σ : Reader} {s r : List Char} (hok : I σ s) (h : σ.read s = some r) :
    σ.read (replaceAll p s) = some r := by
  refine read_replaceAll hp (R := fun σ τ s => σ = τ ∧ I σ s) ?_ ?_ ?_ ⟨rfl, hok⟩ h
  · rintro σ τ r ⟨rfl, -⟩ hfinish
    exact hfinish
  · rintro σ τ σ' x s ⟨rfl, hok⟩ hnone hstep
    exact ⟨σ', hstep, rfl, keep hok hnone hstep⟩
  · rintro σ τ s o r ⟨rfl, hok⟩ ho hread
    obtain ⟨σ', hread', hrun, hok'⟩ := swap hok ho hread
    exact ⟨σ', σ', hread', hrun, rfl, hok'⟩

/-- A pattern whose occurrences lead the reader to where their replacements lead it. -/
theorem read_replaceAll_of_swap {p : Pattern} (hp : Covers p)
    (swap : ∀ {σ : Reader} {s o r}, p s = some o → σ.read s = some r →
      ∃ σ' : Reader, σ'.read o.rest = some r ∧ σ.run o.new = some σ')
    {σ : Reader} {s r : List Char} (h : σ.read s = some r) :
    σ.read (replaceAll p s) = some r := by
  refine read_replaceAll_of_invariant hp (I := fun _ _ => True) ?_ ?_ trivial h
  · exact fun _ _ _ => trivial
  · intro σ s o r _ ho hread
    obtain ⟨σ', hread', hrun⟩ := swap ho hread
    exact ⟨σ', hread', hrun, trivial⟩

variable {r s : List Char}

/-! ## Empty groups -/

/-- A bracket that was just opened can be closed, but not behind a blank. -/
theorem Expecting.of_read_emptyGroup {σ : Reader} {b : List Char} (hb : Blanks b)
    (h : σ.read ('(' :: (b ++ ')' :: s)) = some r) :
    σ.Expecting ∧ Reader.read ⟨σ.outer, σ.done, .closed⟩ s = some r := by
  obtain ⟨outer, done, ph⟩ := σ
  rw [read_cons, step_open] at h
  have hopen : ∀ f : Frame, Reader.read ⟨f :: outer, none, .fresh⟩ (b ++ ')' :: s) = some r →
      Reader.read ⟨outer, f.done, .closed⟩ s = some r := by
    intro f hf
    cases b with
    | nil => simpa [read_cons, closeBracket, Frame.enclose] using hf
    | cons x b =>
      rw [blanks_cons] at hb
      rw [List.cons_append, read_cons, step_blank hb.1] at hf
      rw [blank, Option.bind_some, read_congr (run_blanks hb.2 rfl _), read_cons, step_close] at hf
      cases hf
  cases ph with
  | fresh => exact ⟨.inl rfl, hopen ⟨done, _⟩ h⟩
  | joint c => exact ⟨.inr ⟨c, rfl⟩, hopen ⟨done, _⟩ h⟩
  | _ => cases h

theorem read_replaceAll_emptyGroup {σ : Reader} (h : σ.read s = some r) :
    σ.read (replaceAll emptyGroup s) = some r := by
  refine read_replaceAll covers_emptyGroup (R := fun σ τ _ => Below σ τ) ?_ ?_ ?_ (.refl σ) h
  · exact fun hbelow hfinish => hbelow.finish hfinish
  · exact fun hbelow _ hstep => hbelow.step hstep
  · intro σ τ s o r hbelow ho h
    obtain ⟨hnew, b, hb, rfl⟩ := emptyGroup_eq_some_iff.1 ho
    obtain ⟨hexp, hread⟩ := Expecting.of_read_emptyGroup hb h
    refine ⟨_, τ, hread, by rw [hnew]; rfl, hbelow.outer, hbelow.done, .inr ⟨.inl rfl, ?_⟩⟩
    rcases hbelow.phase with hphase | ⟨-, hτ⟩
    · rwa [Expecting, ← hphase]
    · exact hτ

/-! ## Connectives -/

/-- Between two marks, the reader reads neither a blank nor a closing bracket. -/
theorem read_half_close {σ : Reader} {c : Connective} (h : σ.phase = .half c) {b : List Char}
    (hb : Blanks b) : σ.read (b ++ ')' :: s) = none := by
  rw [Option.eq_none_iff_forall_ne_some]
  intro r hread
  cases b with
  | nil =>
    rw [List.nil_append, read_cons] at hread
    obtain ⟨σ', hstep, -⟩ := Option.bind_eq_some_iff.1 hread
    exact mark_ne_close c (eq_mark_of_half hstep h).symm
  | cons x b =>
    rw [List.cons_append, read_cons] at hread
    obtain ⟨σ', hstep, -⟩ := Option.bind_eq_some_iff.1 hread
    have hx := (blanks_cons.1 hb).1
    rw [eq_mark_of_half hstep h, isBlank_mark] at hx
    cases hx

/-- Between two marks, the reader does not come to the end of the text. -/
theorem read_half_blanks {σ : Reader} {c : Connective} (h : σ.phase = .half c) {b : List Char}
    (hb : Blanks b) : σ.read b = none := by
  obtain ⟨outer, done, ph⟩ := σ
  subst h
  cases b with
  | nil => cases outer <;> rfl
  | cons x b =>
    rw [read_cons, step_blank (blanks_cons.1 hb).1]
    rfl

theorem read_replaceAll_connectiveBeforeClose {σ : Reader} (hσ : σ.phase ≠ .gap)
    (h : σ.read s = some r) : σ.read (replaceAll connectiveBeforeClose s) = some r := by
  -- behind a blank of an occurrence, the occurrence would have started at that blank
  refine read_replaceAll_of_invariant covers_connectiveBeforeClose
    (I := fun σ s => σ.phase = .gap → connectiveBeforeClose s = none)
    ?_ ?_ (fun hgap => absurd hgap hσ) h
  · intro σ σ' x s _ hnone hstep hgap
    rw [Option.eq_none_iff_forall_ne_some]
    intro o ho
    obtain ⟨hnew, c, b, b', hb, hb', rfl⟩ := connectiveBeforeClose_eq_some_iff.1 ho
    have hx := isBlank_of_step_gap hstep hgap
    have hsome := connectiveBeforeClose_eq_some_iff.2
      ⟨hnew, c, x :: b, b', blanks_cons.2 ⟨hx, hb⟩, hb', rfl⟩
    rw [List.cons_append, hnone] at hsome
    cases hsome
  · intro σ s o r hgap ho h
    have hσ : σ.phase ≠ .gap := by
      intro hphase
      rw [hgap hphase] at ho
      cases ho
    obtain ⟨hnew, c, b, b', hb, hb', rfl⟩ := connectiveBeforeClose_eq_some_iff.1 ho
    rcases whole_or_half σ with hwhole | ⟨c', hhalf⟩
    · rw [read_congr (hwhole.run_connective hb hb' c _), read_cons, step_close,
        closeBracket_joined hwhole hσ] at h
      obtain ⟨σ', hclose, hread⟩ := Option.bind_eq_some_iff.1 h
      refine ⟨σ', hread, by simp [hnew, run, hclose], ?_⟩
      rw [phase_of_closeBracket hclose]
      exact fun hphase => by cases hphase
    · obtain ⟨-, -, h⟩ := read_connective_of_half hhalf hb h
      rw [read_half_close hhalf hb'] at h
      cases h

theorem read_replaceAll_connectiveAfterOpen {σ : Reader} (h : σ.read s = some r) :
    σ.read (replaceAll connectiveAfterOpen s) = some r := by
  refine read_replaceAll covers_connectiveAfterOpen
    (R := fun σ τ s => σ = τ ∨ ∃ outer c,
      σ = ⟨outer, none, .joint c⟩ ∧ τ = ⟨outer, none, .fresh⟩ ∧ Solid s)
    ?_ ?_ ?_ (.inl rfl) h
  · rintro σ τ r (rfl | ⟨outer, c, rfl, rfl, -⟩) hfinish
    · exact hfinish
    · cases outer <;> exact hfinish
  · rintro σ τ σ' x s (rfl | ⟨outer, c, rfl, rfl, hs⟩) - hstep
    · exact ⟨σ', hstep, .inl rfl⟩
    · exact ⟨σ', (step_fresh_eq outer c (solid_cons.1 hs)).trans hstep, .inl rfl⟩
  · intro σ τ s o r hR ho h
    obtain ⟨hnew, hsolid, c, b, b', hb, hb', rfl⟩ := connectiveAfterOpen_eq_some_iff.1 ho
    rw [read_cons] at h
    obtain ⟨σ', hstep, hread⟩ := Option.bind_eq_some_iff.1 h
    have hstep' : τ.step '(' = some σ' := by
      rcases hR with rfl | ⟨outer, d, rfl, rfl, -⟩
      · exact hstep
      · exact (step_fresh_eq outer d isBlank_open).trans hstep
    rw [step_open] at hstep
    obtain ⟨-, rfl⟩ := openBracket_eq_some hstep
    have hwhole : Whole ⟨⟨σ.done, σ.front⟩ :: σ.outer, none, .fresh⟩ := by simp [Whole]
    rw [read_congr (hwhole.run_connective hb hb' c _)] at hread
    refine ⟨_, _, hread, ?_, .inr ⟨_, c, rfl, rfl, hsolid⟩⟩
    rw [hnew, run, hstep']
    rfl

theorem read_replaceAll_doubledConnective {σ : Reader} (h : σ.read s = some r) :
    σ.read (replaceAll doubledConnective s) = some r := by
  refine read_replaceAll_of_swap covers_doubledConnective ?_ h
  intro σ s o r ho h
  obtain ⟨c, d, b, hb, hnew, rfl⟩ := doubledConnective_eq_some_iff.1 ho
  rw [hnew]
  rcases whole_or_half σ with hwhole | ⟨c', hhalf⟩
  · have hrun := (whole_joined (σ := σ) c).run_connective hb blanks_nil d o.rest
    rw [List.nil_append] at hrun
    rw [read_congr (hwhole.run_mark_mark c _), read_congr hrun] at h
    exact ⟨_, h, hwhole.run_mark_mark d []⟩
  · -- the first and the last of the four marks belong to other connectives
    obtain ⟨-, -, h⟩ := read_connective_of_half hhalf blanks_nil h
    obtain ⟨-, rfl, h⟩ := read_connective_of_half hhalf hb h
    refine ⟨σ, h, ?_⟩
    simpa [run] using run_connective_of_half hhalf blanks_nil d []

theorem read_dropLeadingConnective (h : start.read s = some r) :
    start.read (dropLeadingConnective s) = some r := by
  rcases dropLeadingConnective_cases s with
    ⟨-, hself⟩ | ⟨c, b, b', rest, hb, hb', hsolid, rfl, hrest⟩
  · rwa [hself]
  · have hwhole : start.Whole := by simp [Whole, start]
    rw [read_congr (hwhole.run_connective hb hb' c _)] at h
    rw [hrest, start, read_fresh_eq [] c hsolid]
    exact h

theorem finish_joined {σ : Reader} (h : σ.Whole) (c : Connective) :
    (σ.joined c).finish = σ.finish := by
  obtain ⟨outer, done, ph⟩ := σ
  cases ph with
  | half d => exact absurd rfl (h d)
  | _ => cases outer <;> rfl

theorem read_replaceAll_trailingConnective {σ : Reader} (h : σ.read s = some r) :
    σ.read (replaceAll trailingConnective s) = some r := by
  refine read_replaceAll_of_swap covers_trailingConnective ?_ h
  intro σ s o r ho h
  obtain ⟨rfl, c, b, b', hb, hb', rfl⟩ := trailingConnective_eq_some_iff.1 ho
  refine ⟨σ, ?_, rfl⟩
  rcases whole_or_half σ with hwhole | ⟨c', hhalf⟩
  · have hrun := hwhole.run_connective hb hb' c []
    rw [List.append_nil] at hrun
    rw [read_congr hrun] at h
    exact (finish_joined hwhole c).symm.trans h
  · obtain ⟨-, -, h⟩ := read_connective_of_half hhalf hb h
    rw [read_half_blanks hhalf hb'] at h
    cases h

/-! ## Brackets and spacing -/

/-- Operands do not stand side by side in a text that can be read, so no connective is put between a
closing bracket and a condition. -/
theorem read_replaceAll_closeBeforeCondition {σ : Reader} (h : σ.read s = some r) :
    σ.read (replaceAll closeBeforeCondition s) = some r := by
  refine read_replaceAll_of_swap covers_closeBeforeCondition ?_ h
  intro σ s o r ho h
  obtain ⟨-, hcond, b, hb, rfl⟩ := closeBeforeCondition_eq_some_iff.1 ho
  obtain ⟨x, rest, hrest, hx⟩ := hcond.exists_plain
  rw [hrest, read_cons, step_close] at h
  obtain ⟨σ', hclose, h⟩ := Option.bind_eq_some_iff.1 h
  have hclosed := phase_of_closeBracket hclose
  cases b with
  | nil =>
    rw [List.nil_append, read_cons, step_operand hx, operand, hclosed] at h
    cases h
  | cons y b =>
    rw [blanks_cons] at hb
    rw [List.cons_append, read_cons, step_blank hb.1, blank, hclosed, Option.bind_some,
      read_congr (run_blanks hb.2 rfl _), read_cons, step_operand hx] at h
    cases h

theorem read_replaceAll_looseConnective {σ : Reader} (hσ : σ.Whole) (h : σ.read s = some r) :
    σ.read (replaceAll looseConnective s) = some r := by
  -- a first mark that stays is not followed by the second one
  refine read_replaceAll_of_invariant covers_looseConnective
    (I := fun σ s => ∀ c, σ.phase = .half c → ∀ t, s ≠ c.mark :: t)
    ?_ ?_ (fun c hc => absurd hc (hσ c)) h
  · rintro σ σ' x s - hnone hstep c hhalf t rfl
    have hahead := connectiveAhead?_append blanks_nil c t
    rw [List.nil_append] at hahead
    rw [eq_mark_of_step_half hstep hhalf, looseConnective, hahead] at hnone
    cases hnone
  · intro σ s o r hok ho h
    obtain ⟨hsolid, c, b, b', hb, hb', hnew, rfl⟩ := looseConnective_eq_some_iff.1 ho
    have hwhole : σ.Whole := by
      intro c' hhalf
      obtain ⟨rfl, rfl, -⟩ := read_connective_of_half hhalf hb h
      exact hok c hhalf _ rfl
    rw [read_congr (hwhole.run_connective hb hb' c _)] at h
    have hspace : Blanks [' '] := by simp
    refine ⟨_, h, ?_, fun c' hc' => by cases hc'⟩
    rw [hnew]
    exact hwhole.run_connective hspace hspace c []

theorem read_replaceAll_blankRun {σ : Reader} (h : σ.read s = some r) :
    σ.read (replaceAll blankRun s) = some r := by
  refine read_replaceAll_of_swap covers_blankRun ?_ h
  intro σ s o r ho h
  obtain ⟨hnew, -, x, b, hx, hb, rfl⟩ := blankRun_eq_some_iff.1 ho
  rw [read_cons, step_blank hx] at h
  obtain ⟨σ', hblank, h⟩ := Option.bind_eq_some_iff.1 h
  rw [read_congr (run_blanks hb (blank_blank hblank) _)] at h
  refine ⟨σ', h, ?_⟩
  simp [hnew, run, step_blank, hblank]

/-! ## Trimming -/

/-- Blanks at the start make no difference. -/
theorem read_of_read_blanks_append {b : List Char} (hb : Blanks b)
    (h : start.read (b ++ s) = some r) : start.read s = some r := by
  cases b with
  | nil => exact h
  | cons x b =>
    rw [blanks_cons] at hb
    rw [List.cons_append, read_cons, step_blank hb.1, blank, start, Option.bind_some,
      read_congr (run_blanks hb.2 rfl _)] at h
    have hbelow : Below ⟨[], none, .gap⟩ start := ⟨rfl, rfl, .inr ⟨.inr rfl, .inl rfl⟩⟩
    exact hbelow.read h

/-- Blanks at the end make no difference. -/
theorem finish_of_read_blanks {σ : Reader} {b : List Char} (hb : Blanks b)
    (h : σ.read b = some r) : σ.finish = some r := by
  cases b with
  | nil => exact h
  | cons x b =>
    rw [blanks_cons] at hb
    rw [read_cons, step_blank hb.1] at h
    obtain ⟨σ', hblank, h⟩ := Option.bind_eq_some_iff.1 h
    rw [← List.append_nil b, read_congr (run_blanks hb.2 (blank_blank hblank) [])] at h
    obtain ⟨outer, done, ph⟩ := σ
    cases ph <;> cases hblank <;> cases outer <;> exact h

theorem read_trim (h : start.read s = some r) : start.read (trim s) = some r := by
  obtain ⟨b, b', hb, hb', hs⟩ := exists_blanks_trim s
  rw [hs, List.append_assoc] at h
  replace h := read_of_read_blanks_append hb h
  rw [read_append] at h
  obtain ⟨σ, hrun, hread⟩ := Option.bind_eq_some_iff.1 h
  rw [read, hrun]
  exact finish_of_read_blanks hb' hread

/-! ## A pass -/

/-- A pass does not change what is read. -/
theorem read_rulePass (h : start.read s = some r) : start.read (rulePass s) = some r := by
  have hwhole : start.Whole := by simp [Whole, start]
  have hgap : start.phase ≠ .gap := by simp [start]
  replace h := read_replaceAll_emptyGroup h
  replace h := read_replaceAll_connectiveBeforeClose hgap h
  replace h := read_replaceAll_connectiveAfterOpen h
  replace h := read_replaceAll_doubledConnective h
  replace h := read_dropLeadingConnective h
  replace h := read_replaceAll_trailingConnective h
  replace h := read_replaceAll_closeBeforeCondition h
  replace h := read_replaceAll_looseConnective hwhole h
  replace h := read_replaceAll_blankRun h
  exact read_trim h

/-- What is read from a shielded filter is still read where the passes come to rest. -/
theorem read_settled {raw : List Char} (h : start.read (shield raw).text = some r) :
    start.read (settled raw).text = some r := by
  refine settled_induction (motive := fun s => start.read s = some r) raw ?_ fun _ => read_rulePass
  rw [prepared, balance_eq_self (balanced_of_read h)]
  exact h

end Reader

end RecordFilter.Normal
