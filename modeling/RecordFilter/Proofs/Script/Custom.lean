import RecordFilter.Proofs.Normal.Literal
import RecordFilter.Proofs.Normal.Tidy
import RecordFilter.Proofs.Script.Build

/-!
# Conditions with a literal of one's own

A caller who wants to compare with a text that holds quotes can write the condition on his own, with
a backslash in front of every quote inside. But a literal ends at the next quote, whatever stands in
front of it, so it is the number of quotes before it that says whether a character of the text lies
in a literal. What lies outside must be tidy for the condition to be built as it was written, and it
is if there is no blank, bracket or mark of a connective in it.

## Main statements

* `mem_unquoted_of_bare`: what an escaped text leaves outside of literals.
* `builds_custom`: what is built from a custom fragment.
* `builds_escaped`: when a condition with an escaped literal is built as it was written.
-/

namespace RecordFilter

namespace Normal

/-- The text with a backslash in front of every quote and every backslash. -/
def escaped (w : List Char) : List Char :=
  w.flatMap fun c => if c = '"' ∨ c = '\\' then ['\\', c] else [c]

/-- The text between quotes, as a caller writes it who expects a backslash to keep a quote from
ending the literal. -/
def escapedLiteral (w : List Char) : List Char := '"' :: (escaped w ++ ['"'])

/-- The characters of a text that stand outside quotes, where the argument says whether the text
starts between two of them. -/
def unquoted : Bool → List Char → List Char
  | _, [] => []
  | inside, c :: s =>
    if c = '"' then unquoted (!inside) s
    else if inside then unquoted inside s
    else c :: unquoted inside s

theorem sentinel_mem_escapedLiteral {w : List Char} :
    sentinel ∈ escapedLiteral w ↔ sentinel ∈ w := by
  have hquote : sentinel ≠ '"' := by decide
  have hbackslash : sentinel ≠ '\\' := by decide
  simp only [escapedLiteral, escaped, List.mem_cons, List.mem_append, List.mem_flatMap, hquote]
  grind

@[simp] theorem escaped_quote (w : List Char) : escaped ('"' :: w) = '\\' :: '"' :: escaped w := rfl

/-- A character other than a quote is written once or, if it is a backslash, twice. -/
theorem exists_escaped_cons {c : Char} (hc : c ≠ '"') (w : List Char) :
    ∃ v, (∀ x ∈ v, x = c) ∧ escaped (c :: w) = v ++ escaped w := by
  by_cases hbackslash : c = '\\'
  · exact ⟨['\\', '\\'], by simp [hbackslash], by simp [escaped, hbackslash]⟩
  · exact ⟨[c], by simp, by simp [escaped, hc, hbackslash]⟩

/-- What is left outside the literals of an escaped text are backslashes, a last quote, and the
characters of the text that stand outside its own quotes. -/
theorem mem_unquoted_of_bare {w : List Char} {c : Char} {q : Option (List Char)}
    (h : .bare c ∈ segmentsFrom q (escaped w ++ ['"'])) :
    c = '"' ∨ c = '\\' ∨ c ∈ unquoted q.isSome w := by
  induction w generalizing q with
  | nil => cases q <;> simp_all [escaped, segmentsFrom]
  | cons d w ih =>
    by_cases hquote : d = '"'
    · subst hquote
      cases q with
      | none =>
        -- the backslash is outside, and the quote opens a literal
        simp only [escaped_quote, List.cons_append, segmentsFrom, Char.reduceEq, if_false, if_true,
          List.mem_cons, Segment.bare.injEq] at h
        rcases h with rfl | h
        · exact .inr (.inl rfl)
        · exact ih h
      | some inside =>
        -- the backslash is the last character of the literal that the quote ends
        simp only [escaped_quote, List.cons_append, segmentsFrom, Char.reduceEq, if_false, if_true,
          List.mem_cons, reduceCtorEq, false_or] at h
        exact ih h
    · obtain ⟨v, hv, hescaped⟩ := exists_escaped_cons hquote w
      have hv' : '"' ∉ v := fun hmem => hquote (hv _ hmem).symm
      rw [hescaped, List.append_assoc] at h
      cases q with
      | none =>
        rw [segmentsFrom_none_append hv', List.mem_append, List.mem_map] at h
        have hstep : unquoted false (d :: w) = d :: unquoted false w := by
          simp [unquoted, hquote]
        simp only [Option.isSome_none, hstep, List.mem_cons]
        rcases h with ⟨y, hy, hyc⟩ | h
        · exact .inr (.inr (.inl ((Segment.bare.inj hyc).symm.trans (hv y hy))))
        · rcases ih h with hc | hc | hc
          · exact .inl hc
          · exact .inr (.inl hc)
          · exact .inr (.inr (.inr hc))
      | some inside =>
        rw [segmentsFrom_some_append hv'] at h
        have hstep : unquoted true (d :: w) = unquoted true w := by
          simp [unquoted, hquote]
        simp only [Option.isSome_some, hstep]
        exact ih h

/-- Nothing of a text without quotes stands outside of them. -/
theorem unquoted_eq_nil {w : List Char} (h : '"' ∉ w) : unquoted true w = [] := by
  induction w with
  | nil => rfl
  | cons c w ih =>
    rw [List.mem_cons, not_or] at h
    simp [unquoted, Ne.symm h.1, ih h.2]

variable {front w : List Char}

/-- Behind a text without quotes, an escaped literal leaves the text and backslashes, a last quote
and the characters of its own text that stand outside of quotes. -/
theorem isPlain_of_mem_shield_escapedLiteral (hfront : OperandText front) (hw : sentinel ∉ w)
    (hunquoted : ∀ c ∈ unquoted true w, isPlain c = true) {x : Char}
    (hx : x ∈ (shield (front ++ escapedLiteral w)).text) : isPlain x = true := by
  have hsentinel : sentinel ∉ front ++ escapedLiteral w := by
    rw [List.mem_append, sentinel_mem_escapedLiteral]
    rintro (hmem | hmem)
    · exact (hfront sentinel hmem).2.2 rfl
    · exact hw hmem
  rw [shield, if_neg hsentinel] at hx
  refine isPlain_of_mem_slotted (fun c hc => ?_) hx
  rw [segments, segmentsFrom_none_append fun hmem => (hfront _ hmem).2.1 rfl, List.mem_append] at hc
  rcases hc with hc | hc
  · obtain ⟨y, hy, hyc⟩ := List.mem_map.1 hc
    exact Segment.bare.inj hyc ▸ (hfront y hy).1
  · rcases mem_unquoted_of_bare (q := some []) hc with rfl | rfl | hc
    · decide
    · decide
    · exact hunquoted c hc

end Normal

open RecordFilter.Normal

variable {ι : Type} [DecidableEq ι] {i : ι} {s : Bench ι} {k : Constraint}

/-- A custom fragment is built as its normal form. -/
theorem builds_custom (hs : s i = some (.new k)) {t r : String} :
    Builds i s [.call i (.custom (some t))] r ↔ normalize t = r := by
  have hquery : ((Call.custom (some t)).run (.new k)).builder.query = t := by
    by_cases ht : t = ""
    · subst ht
      rfl
    · simp [Call.run, Outcome.done, Builder.custom, Builder.withLast, Builder.append,
        Builder.query, Builder.new]
  have hput : (s.put i ((Call.custom (some t)).run (.new k)).builder) i = some _ :=
    Bench.put_self s i _
  rw [Builds, runScript_append]
  simp [runScript, Step.run_call hs, Step.answer_build hput, hquery]

/-- A custom fragment is built as it is exactly if it is tidy outside its literals. -/
theorem builds_custom_self (hs : s i = some (.new k)) {t : String} :
    Builds i s [.call i (.custom (some t))] t ↔ Tidy (shield t.toList).text := by
  rw [builds_custom hs, normalize, ← String.toList_inj, String.toList_ofList,
    normalizeChars_eq_self_iff]

/-- A condition that compares a field with the escaped literal of a text. -/
def escapedCondition (field : String) (op : Operator) (w : String) : String :=
  field ++ op.symbol ++ String.ofList (escapedLiteral w.toList)

theorem toList_escapedCondition (field : String) (op : Operator) (w : String) :
    (escapedCondition field op w).toList =
      field.toList ++ op.symbol.toList ++ escapedLiteral w.toList := by
  rw [escapedCondition, String.toList_append, String.toList_append, String.toList_ofList]

/-- A condition with an escaped literal is built as it was written if it is tidy outside its
literals. Without a sentinel, nothing of the text is outside but what stands behind an odd number of
its quotes, and all is well if there is no blank, bracket or mark in that, as always if the text has
no quotes. With a sentinel, nothing is shielded, and the whole condition must be tidy. -/
theorem builds_escaped (hs : s i = some (.new k)) {field : String} (hf : IsFieldName field.toList)
    (op : Operator) (w : String) :
    (Tidy (shield (escapedCondition field op w).toList).text →
        Builds i s [.call i (.custom (some (escapedCondition field op w)))]
          (escapedCondition field op w)) ∧
      (sentinel ∉ w.toList → '"' ∉ w.toList →
        Builds i s [.call i (.custom (some (escapedCondition field op w)))]
          (escapedCondition field op w)) ∧
      (sentinel ∉ w.toList → (∀ c ∈ unquoted true w.toList, isPlain c = true) →
        Builds i s [.call i (.custom (some (escapedCondition field op w)))]
          (escapedCondition field op w)) ∧
      (sentinel ∈ w.toList →
        (Builds i s [.call i (.custom (some (escapedCondition field op w)))]
          (escapedCondition field op w) ↔ Tidy (escapedCondition field op w).toList)) := by
  have hfront := (operandText_field hf).append (operandText_symbol op)
  have htidy : sentinel ∉ w.toList → (∀ c ∈ unquoted true w.toList, isPlain c = true) →
      Tidy (shield (escapedCondition field op w).toList).text := by
    intro hw hunquoted
    rw [toList_escapedCondition]
    exact tidy_of_plain fun x => isPlain_of_mem_shield_escapedLiteral hfront hw hunquoted
  rw [builds_custom_self hs]
  refine ⟨id, fun hw hquote => htidy hw (by simp [unquoted_eq_nil hquote]), htidy, fun hw => ?_⟩
  have hsentinel : sentinel ∈ (escapedCondition field op w).toList := by
    rw [toList_escapedCondition]
    exact List.mem_append_right _ (sentinel_mem_escapedLiteral.2 hw)
  rw [shield, if_pos hsentinel]

/-- A word between quotes of its own is left outside, and does no harm there. -/
theorem builds_escaped_quoted_word :
    Builds () (fun _ => some (.new .free))
      [.call () (.custom (some (escapedCondition "a" .like "say (\"hi\")  &&")))]
      "a~\"say (\\\"hi\\\")  &&\"" := by
  have hf : IsFieldName "a".toList := ⟨'a', [], .inl rfl, by decide, by simp⟩
  exact (builds_escaped (s := fun _ => some (.new .free)) rfl hf .like "say (\"hi\")  &&").2.2.1
    (by decide) (List.all_eq_true.1 (by decide))

/-- Next to a sentinel, two blanks become one even where no quote is escaped, and without a sentinel
they do behind an escaped quote. -/
theorem not_forall_builds_escaped :
    (¬ ∀ w : String, '"' ∉ w.toList → Builds () (fun _ => some (.new .free))
        [.call () (.custom (some (escapedCondition "a" .equal w)))]
        (escapedCondition "a" .equal w)) ∧
      ¬ ∀ w : String, sentinel ∉ w.toList → Builds () (fun _ => some (.new .free))
        [.call () (.custom (some (escapedCondition "a" .equal w)))]
        (escapedCondition "a" .equal w) := by
  constructor
  · intro h
    have hone := (builds_custom (s := fun _ => some (.new .free)) rfl).1 (h "\ue000  " (by decide))
    revert hone
    decide +kernel
  · intro h
    have hone := (builds_custom (s := fun _ => some (.new .free)) rfl).1 (h "\"  x" (by decide))
    revert hone
    decide +kernel

end RecordFilter
