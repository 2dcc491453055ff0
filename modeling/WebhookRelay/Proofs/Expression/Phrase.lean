import WebhookRelay.Expression.Evaluation
import WebhookRelay.Proofs.Expression.Term

/-! # Written conditional expressions

A `Phrase` is a conditional expression as somebody writes it down: two operands with an
operator between them, and the two branches, each with any blanks around it.  What it
yields over a payload (`Phrase.outcome`) follows the parts: both operands are looked up,
the operator is applied, and the truth of the result chooses the branch.

The evaluator is given one text.  It finds the question mark and the colon by counting
quotes, the operator by looking for the tokens of the table one after the other, and the
operands by what is left on both sides.  The main statement, `Phrase.evaluate_text`, is
that none of this goes wrong: for every phrase and every payload, evaluating the text
gives what the phrase yields, and the empty text exactly where the phrase runs into a
fault.

Two conditions on the operands of a phrase keep the operator visible: they do not hold a
token, and they do not touch the operator with one of the characters that tokens consist
of.  Since every token consists of these characters alone, no token can then straddle an
end of the operator (`Condition.ofText?_append`), and the order of the table decides
between the tokens inside of it.
-/

namespace WebhookRelay
open Text

/-! ## Branches -/

/-- A branch as it is written. -/
inductive Branch where
  | path (s : List Char)
  | quoted (quote : Char) (content : List Char)

namespace Branch

/-- The text of a branch. -/
def text : Branch → List Char
  | path s => s
  | quoted q content => q :: (content ++ [q])

/-- Is the branch what it is called? -/
def WellFormed : Branch → Prop
  | path s => Path.isPathText s = true
  | quoted q content => isQuote q = true ∧ q ∉ content

/-- The value of a branch over a payload: a quoted text is its content, and a path that
leads to nothing is the empty text. -/
def value (data : Value) : Branch → Except Fault Value
  | path s => (Path.resolve data s).map fun v =>
    match v with
    | .null => .text ""
    | v => v
  | quoted _ content => .ok (.text (String.ofList content))

theorem solid {b : Branch} (h : b.WellFormed) : Solid b.text := by
  cases b with
  | path s => exact Term.solid (t := .path s) h
  | quoted q content => exact Term.solid (t := .quoted q content) h

/-- The evaluator reads a branch as it was meant. -/
theorem branchValue_text {b : Branch} (h : b.WellFormed) (data : Value) :
    Expression.branchValue b.text data = b.value data := by
  cases b with
  | path s =>
    have hplain : ∀ c ∈ s, isQuote c = false := fun c hc =>
      isQuote_of_isPathChar ((isPathText_iff.mp h).2 c hc)
    have htrim : trim s = s := trim_solid (solid h)
    rewrite [text, Expression.branchValue, unquote?_eq_none hplain]
    change Expression.pathValue s data = value data (path s)
    rewrite [Expression.pathValue, htrim, value]
    rfl
  | quoted q content =>
    rw [text, Expression.branchValue, unquote?_quoted h.1 h.2]
    rfl

end Branch

/-! ## Texts without a delimiter outside of quotes -/

theorem passes_blanks {target : Char} (htarget : isBlank target = false) {s : List Char}
    (h : ∀ c ∈ s, isBlank c = true) : Passes target s := by
  refine Passes.of_plain fun c hc => ⟨?_, ?_⟩
  · refine Bool.eq_false_iff.mpr fun hquote => ?_
    exact Bool.false_ne_true ((isBlank_of_isQuote hquote).symm.trans (h c hc))
  · rintro rfl
    exact Bool.false_ne_true (htarget.symm.trans (h c hc))

theorem passes_around {target : Char} (htarget : isBlank target = false) (p : Padding)
    {s : List Char} (h : Passes target s) : Passes target (p.around s) :=
  ((passes_blanks htarget p.blank_before).append h).append (passes_blanks htarget p.blank_after)

theorem passes_path {target : Char} (htarget : Path.isPathChar target = false) {s : List Char}
    (h : Path.isPathText s = true) : Passes target s := by
  refine Passes.of_plain fun c hc => ?_
  have hchar := (isPathText_iff.mp h).2 c hc
  refine ⟨isQuote_of_isPathChar hchar, ?_⟩
  rintro rfl
  exact Bool.false_ne_true (htarget.symm.trans hchar)

/-- A term holds no question mark outside of quotes. -/
theorem Term.passes {t : Term} (h : t.WellFormed) : Passes '?' t.text := by
  cases t with
  | path s => exact passes_path (by decide) h
  | quoted q content => exact Passes.of_quoted h.1 h.2
  | negative whole fraction =>
    have hsign : Passes '?' ['-'] :=
      Passes.of_plain (List.forall_mem_singleton.mpr ⟨by decide, by decide⟩)
    exact hsign.append (passes_path (by decide) (IsNumber.isPathText h))
  | bare s => exact Passes.of_plain h.2.1

/-- A branch holds no colon outside of quotes. -/
theorem Branch.passes {b : Branch} (h : b.WellFormed) : Passes ':' b.text := by
  cases b with
  | path s => exact passes_path (by decide) h
  | quoted q content => exact Passes.of_quoted h.1 h.2

/-! ## Tokens -/

namespace Operator

/-- The characters that tokens consist of. -/
def marks : List Char := ['=', '!', '<', '>', '&', '|']

theorem mem_marks {op : Operator} : ∀ c ∈ op.token.toList, c ∈ marks := by
  have h : op.token.toList.all marks.contains = true := by cases op <;> decide
  exact fun c hc => List.contains_iff_mem.mp (List.all_eq_true.mp h c hc)

theorem token_ne_nil (op : Operator) : op.token.toList ≠ [] := by
  cases op <;> decide

theorem not_mem_marks {c : Char} (h : isBlank c = true) : c ∉ marks := by
  intro hmem
  have hsolid : marks.all (!isBlank ·) = true := by decide
  have hc := List.all_eq_true.mp hsolid c hmem
  rw [h] at hc
  exact Bool.false_ne_true hc

/-- No token occurs inside of one that comes later in the table. -/
theorem all_split (op : Operator) :
    ∃ earlier later, all = earlier ++ op :: later ∧
      ∀ other ∈ earlier, cut? other.token.toList op.token.toList = none := by
  refine ⟨all.takeWhile (· ≠ op), (all.dropWhile (· ≠ op)).tail, ?_, ?_⟩
  · cases op <;> decide
  · cases op <;> decide

/-- A text without the characters of tokens holds no token. -/
theorem not_infix_of_forall (op : Operator) {s : List Char} (h : ∀ c ∈ s, c ∉ marks) :
    ¬ op.token.toList <:+: s := by
  intro hinf
  obtain ⟨c, rest, htoken⟩ := List.exists_cons_of_ne_nil op.token_ne_nil
  have hc : c ∈ op.token.toList := htoken ▸ List.mem_cons_self
  exact h c (hinf.subset hc) (mem_marks c hc)

/-- A run of blanks holds no token. -/
theorem not_infix_blanks (op : Operator) {gap : List Char} (h : ∀ c ∈ gap, isBlank c = true) :
    ¬ op.token.toList <:+: gap :=
  op.not_infix_of_forall fun c hc => not_mem_marks (h c hc)

end Operator

/-- **The operator of a condition is found** between two texts that hold no token and do
not touch it with a character of tokens. -/
theorem Condition.ofText?_append (op : Operator) {front rest : List Char}
    (hfront : ∀ other : Operator, ¬ other.token.toList <:+: front)
    (hrest : ∀ other : Operator, ¬ other.token.toList <:+: rest)
    (hlast : ∀ c, front.getLast? = some c → c ∉ Operator.marks)
    (hfirst : ∀ c, rest.head? = some c → c ∉ Operator.marks) :
    Condition.ofText? (front ++ (op.token.toList ++ rest)) = some ⟨op, front, rest⟩ := by
  have hend : ∀ (other : Operator) c, front.getLast? = some c → c ∉ other.token.toList :=
    fun other c hc hmem => hlast c hc (Operator.mem_marks c hmem)
  have hstart : ∀ (other : Operator) c, rest.head? = some c → c ∉ other.token.toList :=
    fun other c hc hmem => hfirst c hc (Operator.mem_marks c hmem)
  obtain ⟨earlier, later, hall, hearlier⟩ := op.all_split
  -- an earlier token would have to lie in one of the three parts
  have hnone : ∀ other ∈ earlier,
      cut? other.token.toList (front ++ (op.token.toList ++ rest)) = none := by
    intro other hmem
    refine cut?_eq_none_iff.mpr fun hinf => ?_
    rcases infix_append_of_last (hend other) hinf with hinf | hinf
    · exact hfront other hinf
    · rcases infix_append_of_first (hstart other) hinf with hinf | hinf
      · exact cut?_eq_none_iff.mp (hearlier other hmem) hinf
      · exact hrest other hinf
  rw [Condition.ofText?, hall, List.findSome?_append, List.findSome?_eq_none_iff.mpr,
    Option.none_or, List.findSome?_cons, cut?_append (hfront op) (hend op)]
  · rfl
  · intro other hmem
    rw [hnone other hmem]
    rfl

/-! ## Phrases -/

/-- A conditional expression as it is written. -/
structure Phrase where
  left : Term
  operator : Operator
  right : Term
  whenTrue : Branch
  whenFalse : Branch
  leftPadding : Padding := {}
  rightPadding : Padding := {}
  truePadding : Padding := {}
  falsePadding : Padding := {}
  left_wellFormed : left.WellFormed
  right_wellFormed : right.WellFormed
  true_wellFormed : whenTrue.WellFormed
  false_wellFormed : whenFalse.WellFormed
  /-- No token occurs inside of an operand. -/
  left_free : ∀ op : Operator, ¬ op.token.toList <:+: left.text
  right_free : ∀ op : Operator, ¬ op.token.toList <:+: right.text
  /-- No operand touches the operator with a character of tokens. -/
  left_end : ∀ c, left.text.getLast? = some c → c ∉ Operator.marks
  right_start : ∀ c, right.text.head? = some c → c ∉ Operator.marks

namespace Phrase

/-- The condition of a phrase. -/
def condition (p : Phrase) : List Char :=
  p.leftPadding.around p.left.text ++ p.operator.token.toList
    ++ p.rightPadding.around p.right.text

/-- The text of a phrase. -/
def text (p : Phrase) : List Char :=
  p.condition ++ '?' :: (p.truePadding.around p.whenTrue.text
    ++ ':' :: p.falsePadding.around p.whenFalse.text)

/-- What a phrase yields over a payload, or the fault that it runs into. -/
def outcome (p : Phrase) (data : Value) : Except Fault Value := do
  let left ← p.left.locate data
  let right ← p.right.locate data
  let chosen ← (← p.operator.apply left right).truthy
  (if chosen then p.whenTrue else p.whenFalse).value data

/-- A condition without the blanks at its ends, as it is cut at the operator. -/
def trimmed (p : Phrase) : Condition where
  operator := p.operator
  left := p.left.text ++ p.leftPadding.after
  right := p.rightPadding.before ++ p.right.text

theorem trim_condition (p : Phrase) :
    trim p.condition = p.trimmed.left ++ (p.operator.token.toList ++ p.trimmed.right) := by
  have hsolid := (Term.solid p.left_wellFormed).enclose
    (p.leftPadding.after ++ p.operator.token.toList ++ p.rightPadding.before)
    (Term.solid p.right_wellFormed)
  have hpadding : ∃ outer : Padding, outer.before = p.leftPadding.before ∧
      outer.after = p.rightPadding.after :=
    ⟨⟨_, _, p.leftPadding.all_before, p.rightPadding.all_after⟩, rfl, rfl⟩
  obtain ⟨outer, hbefore, hafter⟩ := hpadding
  have htrim := outer.trim_around hsolid
  simp only [Padding.around, hbefore, hafter, List.append_assoc] at htrim
  simpa only [condition, trimmed, Padding.around, List.append_assoc] using htrim

/-- The condition is taken apart at the operator. -/
theorem ofText?_condition (p : Phrase) :
    Condition.ofText? (trim p.condition) = some p.trimmed := by
  rw [trim_condition]
  have hleft := p.leftPadding.blank_after
  have hright := p.rightPadding.blank_before
  refine Condition.ofText?_append p.operator (fun other hinf => ?_) (fun other hinf => ?_)
    (fun c hc => ?_) (fun c hc => ?_)
  · have hstart : ∀ c, p.leftPadding.after.head? = some c → c ∉ other.token.toList :=
      fun c hc hmem =>
        Operator.not_mem_marks (hleft c (List.mem_of_head? hc)) (Operator.mem_marks c hmem)
    rcases infix_append_of_first hstart hinf with hinf | hinf
    · exact p.left_free other hinf
    · exact other.not_infix_blanks hleft hinf
  · have hend : ∀ c, p.rightPadding.before.getLast? = some c → c ∉ other.token.toList :=
      fun c hc hmem =>
        Operator.not_mem_marks (hright c (List.mem_of_getLast? hc)) (Operator.mem_marks c hmem)
    rcases infix_append_of_last hend hinf with hinf | hinf
    · exact other.not_infix_blanks hright hinf
    · exact p.right_free other hinf
  · rw [trimmed, List.getLast?_append, Option.or_eq_some_iff] at hc
    rcases hc with hc | ⟨-, hc⟩
    · exact Operator.not_mem_marks (hleft c (List.mem_of_getLast? hc))
    · exact p.left_end c hc
  · rw [trimmed, List.head?_append, Option.or_eq_some_iff] at hc
    rcases hc with hc | ⟨-, hc⟩
    · exact Operator.not_mem_marks (hright c (List.mem_of_head? hc))
    · exact p.right_start c hc

/-- The text is taken apart at the question mark and the colon. -/
theorem ofText?_text (p : Phrase) :
    Ternary.ofText? p.text =
      some ⟨trim p.condition, p.whenTrue.text, p.whenFalse.text⟩ := by
  have hplain : Operator.marks.all (fun c => !isQuote c && c != '?') = true := by decide
  have hmark : Passes '?' p.operator.token.toList := Passes.of_plain fun c hc => by
    simpa using List.all_eq_true.mp hplain c (Operator.mem_marks c hc)
  have hcondition : Passes '?' p.condition :=
    ((passes_around (by decide) p.leftPadding (Term.passes p.left_wellFormed)).append
      hmark).append (passes_around (by decide) p.rightPadding (Term.passes p.right_wellFormed))
  have hbranch : Passes ':' (p.truePadding.around p.whenTrue.text) :=
    passes_around (by decide) p.truePadding (Branch.passes p.true_wellFormed)
  have hne : trim p.condition ≠ [] := by
    rw [trim_condition]
    simp [(Term.solid p.left_wellFormed).ne_nil, trimmed]
  rw [Ternary.ofText?, text, hcondition.cutUnquoted?_append (by decide)]
  simp only [Option.bind_eq_bind, Option.bind_some]
  rw [hbranch.cutUnquoted?_append (by decide)]
  simp only [Option.bind_some, Padding.trim_around _ (Branch.solid p.true_wellFormed),
    Padding.trim_around _ (Branch.solid p.false_wellFormed)]
  rw [if_neg]
  simp [hne, (Branch.solid p.true_wellFormed).ne_nil, (Branch.solid p.false_wellFormed).ne_nil]

/-- The condition of a phrase holds when the operator yields something truthy. -/
theorem holds_condition (p : Phrase) (data : Value) :
    Expression.holds (trim p.condition) data = (do
      let left ← p.left.locate data
      let right ← p.right.locate data
      (← p.operator.apply left right).truthy) := by
  have hleft := Term.read_around ⟨[], _, rfl, p.leftPadding.all_after⟩
    p.left_wellFormed data
  have hright := Term.read_around ⟨_, [], p.rightPadding.all_before, rfl⟩
    p.right_wellFormed data
  simp only [Padding.around, List.nil_append, List.append_nil] at hleft hright
  rw [Expression.holds, ofText?_condition]
  simp only [Condition.holds, trimmed]
  rw [← hleft, ← hright]
  simp only [bind_assoc]

/-- **Evaluating a written conditional expression** gives what it yields, and the empty
text exactly where it runs into a fault. -/
theorem evaluate_text (p : Phrase) (data : Value) :
    Expression.evaluate p.text data = (p.outcome data).toOption.getD (.text "") := by
  have hattempt : Expression.attempt p.text data = p.outcome data := by
    rw [Expression.attempt, ofText?_text]
    simp only [holds_condition, outcome, bind_assoc]
    refine bind_congr fun left => bind_congr fun right => bind_congr fun result =>
      bind_congr fun chosen => ?_
    cases chosen
    · exact Branch.branchValue_text p.false_wellFormed data
    · exact Branch.branchValue_text p.true_wellFormed data
  rw [Expression.evaluate, hattempt]
  cases p.outcome data <;> rfl

/-- There are phrases with delimiters inside of operands and branches. -/
example : ∃ p : Phrase, p.text = "a != '?:' ? \"y:n\" : c ".toList :=
  ⟨{ left := .path "a".toList
     operator := .unequal
     right := .quoted '\'' "?:".toList
     whenTrue := .quoted '"' "y:n".toList
     whenFalse := .path "c".toList
     leftPadding := { after := [' '] }
     rightPadding := { before := [' '], after := [' '] }
     truePadding := { before := [' '], after := [' '] }
     falsePadding := { before := [' '], after := [' '] }
     left_wellFormed := by change Path.isPathText _ = true; decide
     right_wellFormed := by constructor <;> decide
     true_wellFormed := by constructor <;> decide
     false_wellFormed := by change Path.isPathText _ = true; decide
     left_free := fun op => cut?_eq_none_iff.mp (by cases op <;> decide)
     right_free := fun op => cut?_eq_none_iff.mp (by cases op <;> decide)
     left_end := fun c hc => Option.some.inj hc ▸ by decide
     right_start := fun c hc => Option.some.inj hc ▸ by decide }, by decide⟩

end Phrase
end WebhookRelay
