import Mathlib.Data.List.Basic
import RecordFilter.Proofs.Normal.Rule

/-!
# Formulas

A *formula* is a filter as a tree: comparisons and formulas in brackets, with a connective between
each and the next. Its text can be read back in one way only. A field ends where no field character
follows, a symbol where no operator character follows, although symbols are parts of one another,
and a literal shows by its first character where it ends. So a factor ends where it ends whatever
stands behind it, and a formula wherever no space follows.

## Main statements

* `Comparison.chars_append_inj`: a comparison ends where it ends, whatever stands behind it.
* `Formula.chars_inj`: formulas with the same text are equal.
* `Formula.chars_join`, `Formula.chars_oneOf?`: the texts of formulas put together from others.
-/

namespace RecordFilter

open Text RecordFilter.Normal

/-- What a field is compared with, as it is written: a word for a boolean, and a text in quotes for
every other value. -/
inductive Literal
  | flag (b : Bool)
  | quoted (text : String)
  deriving DecidableEq, Repr

structure Comparison where
  field : String
  operator : Operator
  literal : Literal
  deriving DecidableEq, Repr

mutual

inductive Factor
  | comparison (c : Comparison)
  | bracket (inner : Formula)

/-- Factors with a connective between each and the next. -/
inductive Formula
  | factor (f : Factor)
  | joined (f : Factor) (c : Connective) (rest : Formula)

end

/-! ## Texts -/

def Literal.chars : Literal → List Char
  | flag b => (if b then "true" else "false").toList
  | quoted t => '"' :: (t.toList ++ ['"'])

def Comparison.chars (c : Comparison) : List Char :=
  c.field.toList ++ c.operator.symbol.toList ++ c.literal.chars

mutual

def Factor.chars : Factor → List Char
  | .comparison c => c.chars
  | .bracket p => '(' :: (p.chars ++ [')'])

def Formula.chars : Formula → List Char
  | .factor f => f.chars
  | .joined f c rest => f.chars ++ c.spaced.toList ++ rest.chars

end

/-! ## Proper formulas -/

/-- A text in quotes holds no quote. -/
def Literal.Proper : Literal → Prop
  | flag _ => True
  | quoted t => '"' ∉ t.toList

structure Comparison.Proper (c : Comparison) : Prop where
  field : IsFieldName c.field.toList
  literal : c.literal.Proper

mutual

def Factor.Proper : Factor → Prop
  | .comparison c => c.Proper
  | .bracket p => p.Proper

def Formula.Proper : Formula → Prop
  | .factor f => f.Proper
  | .joined f _ rest => f.Proper ∧ rest.Proper

end

/-! ## Fields and symbols -/

/-- What stands behind a field and a symbol shows where the field ends. -/
theorem Normal.IsFieldName.append_symbol_inj {f g : List Char} (hf : IsFieldName f)
    (hg : IsFieldName g) {op op' : Operator} {v w : List Char}
    (h : f ++ op.symbol.toList ++ v = g ++ op'.symbol.toList ++ w) :
    f = g ∧ op.symbol.toList ++ v = op'.symbol.toList ++ w := by
  have hleft := afterField?_append hf blanks_nil op v
  have hright := afterField?_append hg blanks_nil op' w
  simp only [List.append_nil, List.nil_append] at hleft hright
  rw [h, hright] at hleft
  have htail : op'.symbol.toList ++ w = op.symbol.toList ++ v := by simpa using hleft
  rw [List.append_assoc, List.append_assoc, htail] at h
  exact ⟨List.append_cancel_right h, htail.symm⟩

/-- A character that symbols are made of. -/
def isOperatorChar (c : Char) : Bool := "=!<>~?".toList.contains c

namespace Operator

theorem symbol_injective : Function.Injective symbol := by
  intro op op' h
  have hself : ∀ op : Operator, ofSymbol? op.symbol = some op := by
    intro op
    cases op <;> rfl
  have hfound := hself op
  rw [h, hself op'] at hfound
  exact (Option.some.inj hfound).symm

theorem isOperatorChar_of_mem_symbol (op : Operator) :
    ∀ x ∈ op.symbol.toList, isOperatorChar x = true := by
  have hall : op.symbol.toList.all isOperatorChar = true := by cases op <;> decide
  exact List.all_eq_true.1 hall

/-- A symbol goes on as long as there are operator characters. -/
theorem symbol_append_inj {op op' : Operator} {x y : Char} {v w : List Char}
    (hx : isOperatorChar x = false) (hy : isOperatorChar y = false)
    (h : op.symbol.toList ++ x :: v = op'.symbol.toList ++ y :: w) :
    op = op' ∧ x :: v = y :: w := by
  obtain ⟨hsymbol, hrest⟩ := run_append_inj op.isOperatorChar_of_mem_symbol
    op'.isOperatorChar_of_mem_symbol hx hy h
  exact ⟨symbol_injective (String.toList_inj.1 hsymbol), hrest⟩

end Operator

/-! ## Literals and comparisons -/

/-- A literal starts with a quote or a letter. -/
theorem Literal.exists_chars_eq_cons (l : Literal) :
    ∃ x v, l.chars = x :: v ∧ isOperatorChar x = false := by
  cases l with
  | flag b => cases b <;> exact ⟨_, _, rfl, by decide⟩
  | quoted t => exact ⟨_, _, rfl, by decide⟩

theorem Literal.chars_append_inj {l m : Literal} (hl : l.Proper) (hm : m.Proper) {v w : List Char}
    (h : l.chars ++ v = m.chars ++ w) : l = m ∧ v = w := by
  cases l with
  | flag b =>
    cases m with
    | flag b' => cases b <;> cases b' <;> simp_all [chars]
    | quoted t => cases b <;> simp [chars] at h
  | quoted t =>
    cases m with
    | flag b => cases b <;> simp [chars] at h
    | quoted t' =>
      -- the text goes on to the first quote behind the one that opens it
      have hinside : ∀ {u : String}, '"' ∉ u.toList → ∀ a ∈ u.toList, (a != '"') = true := by
        intro u hu a ha
        exact bne_iff_ne.2 fun hquote => hu (hquote ▸ ha)
      simp only [chars, List.cons_append, List.append_assoc, List.nil_append, List.cons.injEq,
        true_and] at h
      obtain ⟨htext, hrest⟩ := run_append_inj (p := (· != '"')) (hinside hl) (hinside hm)
        (by simp) (by simp) h
      exact ⟨by rw [String.toList_inj.1 htext], (List.cons.inj hrest).2⟩

/-- A comparison ends where it ends, whatever stands behind it. -/
theorem Comparison.chars_append_inj {c d : Comparison} (hc : c.Proper) (hd : d.Proper)
    {v w : List Char} (h : c.chars ++ v = d.chars ++ w) : c = d ∧ v = w := by
  obtain ⟨f, op, l⟩ := c
  obtain ⟨g, op', m⟩ := d
  obtain ⟨x, l', hl, hx⟩ := l.exists_chars_eq_cons
  obtain ⟨y, m', hm, hy⟩ := m.exists_chars_eq_cons
  simp only [chars, List.append_assoc] at h
  obtain ⟨hfield, hsymbol⟩ := hc.field.append_symbol_inj hd.field (by simpa using h)
  rw [hl, hm, List.cons_append, List.cons_append] at hsymbol
  obtain ⟨rfl, hliteral⟩ := Operator.symbol_append_inj hx hy hsymbol
  rw [← List.cons_append, ← List.cons_append, ← hl, ← hm] at hliteral
  obtain ⟨rfl, hrest⟩ : l = m ∧ v = w := Literal.chars_append_inj hc.literal hd.literal hliteral
  obtain rfl : f = g := String.toList_inj.1 hfield
  exact ⟨rfl, hrest⟩

/-! ## Formulas -/

/-- A comparison does not start with a bracket. -/
theorem Comparison.chars_append_ne_open {c : Comparison} (hc : c.Proper) (v w : List Char) :
    c.chars ++ v ≠ '(' :: w := by
  obtain ⟨x, u, hf, hx, -⟩ := hc.field
  intro h
  rcases hf with hf | hf
  · simp only [chars, hf, List.cons_append, List.cons.injEq] at h
    rw [h.1] at hx
    revert hx
    decide
  · simp [chars, hf] at h

mutual

/-- A factor ends where it ends, whatever stands behind it. -/
theorem Factor.chars_append_inj {f g : Factor} (hf : f.Proper) (hg : g.Proper) {v w : List Char}
    (h : f.chars ++ v = g.chars ++ w) : f = g ∧ v = w := by
  match f, g with
  | .comparison c, .comparison d =>
    obtain ⟨rfl, hrest⟩ := Comparison.chars_append_inj hf hg h
    exact ⟨rfl, hrest⟩
  | .comparison c, .bracket q => exact absurd h (Comparison.chars_append_ne_open hf v _)
  | .bracket p, .comparison d => exact absurd h.symm (Comparison.chars_append_ne_open hg w _)
  | .bracket p, .bracket q =>
    simp only [Factor.chars, List.cons_append, List.append_assoc, List.cons.injEq, true_and] at h
    obtain ⟨rfl, hrest⟩ := Formula.chars_append_inj hf hg (by simp) (by simp) h
    exact ⟨rfl, (List.cons.inj hrest).2⟩

/-- A formula ends where no space follows. -/
theorem Formula.chars_append_inj {p q : Formula} (hp : p.Proper) (hq : q.Proper) {v w : List Char}
    (hv : v.head? ≠ some ' ') (hw : w.head? ≠ some ' ') (h : p.chars ++ v = q.chars ++ w) :
    p = q ∧ v = w := by
  match p, q with
  | .factor f, .factor g =>
    obtain ⟨rfl, hrest⟩ := Factor.chars_append_inj hp hq h
    exact ⟨rfl, hrest⟩
  | .factor f, .joined g c rest =>
    simp only [Formula.chars, List.append_assoc] at h
    obtain ⟨-, hrest⟩ := Factor.chars_append_inj hp hq.1 h
    simp [hrest, Connective.toList_spaced] at hv
  | .joined f c rest, .factor g =>
    simp only [Formula.chars, List.append_assoc] at h
    obtain ⟨-, hrest⟩ := Factor.chars_append_inj hp.1 hq h
    simp [← hrest, Connective.toList_spaced] at hw
  | .joined f c rest, .joined g d rest' =>
    simp only [Formula.chars, List.append_assoc] at h
    obtain ⟨rfl, hbehind⟩ := Factor.chars_append_inj hp.1 hq.1 h
    simp only [Connective.toList_spaced, List.cons_append, List.nil_append, List.cons.injEq,
      true_and] at hbehind
    obtain ⟨hmark, -, hafter⟩ := hbehind
    obtain ⟨rfl, hrest⟩ := Formula.chars_append_inj hp.2 hq.2 hv hw hafter
    exact ⟨by rw [Connective.mark_injective hmark], hrest⟩

end

theorem Factor.chars_ne_nil (f : Factor) : f.chars ≠ [] := by
  cases f with
  | comparison c =>
    obtain ⟨x, v, hop, -⟩ := exists_symbol_eq_cons c.operator
    simp [chars, Comparison.chars, hop]
  | bracket p => simp [chars]

theorem Formula.chars_ne_nil (p : Formula) : p.chars ≠ [] := by
  cases p with
  | factor f => exact f.chars_ne_nil
  | joined f c rest => simp [chars, f.chars_ne_nil]

/-- Formulas with the same text are equal. -/
theorem Formula.chars_inj {p q : Formula} (hp : p.Proper) (hq : q.Proper) :
    p.chars = q.chars ↔ p = q := by
  constructor
  · intro h
    exact (Formula.chars_append_inj hp hq (v := []) (w := []) (by simp) (by simp) (by simp [h])).1
  · rintro rfl
    rfl

/-! ## Formulas put together -/

namespace Formula

/-- Two formulas with a connective between them, as one. -/
def join : Formula → Connective → Formula → Formula
  | .factor f, c, q => .joined f c q
  | .joined f d rest, c, q => .joined f d (rest.join c q)

/-- The factors as alternatives; nothing if there are none. -/
def oneOf? : List Factor → Option Formula
  | [] => none
  | f :: fs => some ((oneOf? fs).elim (.factor f) (.joined f .or))

theorem chars_join (p : Formula) (c : Connective) (q : Formula) :
    (p.join c q).chars = p.chars ++ c.spaced.toList ++ q.chars := by
  match p with
  | .factor f => rfl
  | .joined f d rest => simp [join, chars, chars_join rest c q]

theorem proper_join {p q : Formula} (hp : p.Proper) (hq : q.Proper) (c : Connective) :
    (p.join c q).Proper := by
  match p with
  | .factor f => exact ⟨hp, hq⟩
  | .joined f d rest => exact ⟨hp.1, proper_join hp.2 hq c⟩

theorem chars_oneOf? (f : Factor) (fs : List Factor) :
    (oneOf? (f :: fs)).map chars =
      some (f.chars ++ fs.flatMap fun g => Connective.or.spaced.toList ++ g.chars) := by
  induction fs generalizing f with
  | nil => simp [oneOf?, chars]
  | cons g fs ih =>
    obtain ⟨p, hp, hchars⟩ := Option.map_eq_some_iff.1 (ih g)
    rw [oneOf?, hp]
    simp [chars, hchars]

theorem proper_oneOf? {fs : List Factor} (h : ∀ f ∈ fs, f.Proper) : ∀ p ∈ oneOf? fs, p.Proper := by
  induction fs with
  | nil => simp [oneOf?]
  | cons f fs ih =>
    have hf := h f (by simp)
    replace ih := ih fun g hg => h g (by simp [hg])
    cases hfs : oneOf? fs with
    | none => simpa [oneOf?, hfs, Proper] using hf
    | some p => simpa [oneOf?, hfs, Proper, hf] using ih p hfs

end Formula

end RecordFilter
