import DiagramText.Classes.Parse
import DiagramText.Er.Parse
import DiagramText.ScopeGraph.Problem
import DiagramText.Sequence.Parse

/-!
# Warnings about blocks without a closer

A block that is closed by anything but its closer gives a warning, and the first words of a warning
tell whether it is such a one.  For each dialect, `Problem.closesBlock` singles out these problems,
and `warns_toDiagnostic` says that the words are right.
-/

namespace DiagramText

/-- Whether a diagnostic is a warning that starts with one of some words. -/
def Diagnostic.warns (words : List String) (d : Diagnostic) : Bool :=
  d.isWarning && words.any fun w => w.toList.isPrefixOf d.message.toList

/-- The warnings that start with some words come from the problems that are worded so. -/
theorem filter_warns {π : Type} [Describe π] {words : List String} {q : π → Bool}
    (h : ∀ r : Report π, r.toDiagnostic.warns words = q r.problem) (rs : List (Report π)) :
    (rs.map Report.toDiagnostic).filter (·.warns words) =
      (rs.filter (q ·.problem)).map Report.toDiagnostic := by
  rw [List.filter_map]
  congr 2
  funext r
  exact h r

/-- The lines of the reports on problems of some sort. -/
def reportLines {π : Type} (q : π → Bool) (rs : List (Report π)) : List Int :=
  (rs.filter (q ·.problem)).map (·.line)

section

variable {π : Type} {q : π → Bool}

theorem reportLines_append (rs rs' : List (Report π)) :
    reportLines q (rs ++ rs') = reportLines q rs ++ reportLines q rs' := by
  unfold reportLines
  rw [List.filter_append, List.map_append]

theorem reportLines_of_false {rs : List (Report π)} (h : ∀ r ∈ rs, q r.problem = false) :
    reportLines q rs = [] := by
  unfold reportLines
  rw [List.filter_eq_nil_iff.2 fun r hr => by rw [h r hr]; decide]
  rfl

theorem reportLines_of_true {rs : List (Report π)} (h : ∀ r ∈ rs, q r.problem = true) :
    reportLines q rs = rs.map (·.line) := by
  unfold reportLines
  rw [List.filter_eq_self.2 h]

theorem reportLines_concat_of_true (rs : List (Report π)) {r : Report π}
    (h : q r.problem = true) : reportLines q (rs ++ [r]) = reportLines q rs ++ [r.line] := by
  rw [reportLines_append, reportLines_of_true (List.forall_mem_singleton.2 h)]
  rfl

theorem reportLines_concat_of_false (rs : List (Report π)) {r : Report π}
    (h : q r.problem = false) : reportLines q (rs ++ [r]) = reportLines q rs := by
  rw [reportLines_append, reportLines_of_false (List.forall_mem_singleton.2 h), List.append_nil]

theorem lines_filter_warns [Describe π] {words : List String}
    (h : ∀ r : Report π, r.toDiagnostic.warns words = q r.problem) (rs : List (Report π)) :
    ((rs.map Report.toDiagnostic).filter (·.warns words)).map (·.line) = reportLines q rs := by
  rw [filter_warns h, List.map_map]
  rfl

end

theorem isPrefixOf_self_append (cs ds : List Char) : cs.isPrefixOf (cs ++ ds) = true :=
  List.isPrefixOf_iff_prefix.2 (List.prefix_append cs ds)

namespace ScopeGraph

/-- How a warning about a scope that is open at the end starts. -/
def Family.unclosedWords : Family → List String
  | .flowchart => ["Unclosed subgraph '"]
  | .state => ["Unclosed composite state '"]

/-- Whether a problem is that the end of the source has closed a scope. -/
def Problem.closesBlock (family : Family) : Problem → Bool
  | .unclosed f _ => f == family
  | _ => false

theorem warns_toDiagnostic (family : Family) (r : Report Problem) :
    r.toDiagnostic.warns family.unclosedWords = r.problem.closesBlock family := by
  obtain ⟨problem, line, column⟩ := r
  cases problem with
  | unclosed f id =>
    cases family <;> cases f <;>
      simp only [Diagnostic.warns, Diagnostic.isWarning, Report.toDiagnostic, Describe.message,
        Describe.severity, Family.unclosedWords, Problem.closesBlock, toString, String.toList_append,
        List.append_assoc, isPrefixOf_self_append, List.any_cons, List.any_nil] <;>
      rfl
  | _ =>
    cases family <;>
      simp only [Diagnostic.warns, Diagnostic.isWarning, Report.toDiagnostic, Describe.message,
        Describe.severity, Family.unclosedWords, Problem.closesBlock, toString, String.toList_append,
        List.append_assoc, List.any_cons, List.any_nil] <;>
      rfl

end ScopeGraph

namespace Sequence

/-- How a warning about a block or a box that is open at the end starts. -/
def unclosedWords : List String := ["Unclosed "]

/-- Whether a problem is that the end of the source has closed a block or a box. -/
def Problem.closesBlock : Problem → Bool
  | .unclosedBlock _ | .unclosedBox => true
  | _ => false

theorem warns_toDiagnostic (r : Report Problem) :
    r.toDiagnostic.warns unclosedWords = r.problem.closesBlock := by
  obtain ⟨problem, line, column⟩ := r
  cases problem <;>
    simp only [Diagnostic.warns, Diagnostic.isWarning, Report.toDiagnostic, Describe.message,
      Describe.severity, unclosedWords, Problem.closesBlock, toString, String.toList_append,
      List.append_assoc, List.any_cons, List.any_nil] <;>
    rfl

end Sequence

namespace Classes

/-- How a warning about a body or a namespace without a closer starts. -/
def unclosedWords : List String := ["Class body of '", "Namespace '"]

/-- Whether a problem is that something but its closer has closed a body or a namespace. -/
def Problem.closesBlock : Problem → Bool
  | .unclosedBody _ | .unclosedGroup _ | .bodyBeforeClass _ | .nestedGroup _ _ => true
  | _ => false

theorem warns_toDiagnostic (r : Report Problem) :
    r.toDiagnostic.warns unclosedWords = r.problem.closesBlock := by
  obtain ⟨problem, line, column⟩ := r
  cases problem <;>
    simp only [Diagnostic.warns, Diagnostic.isWarning, Report.toDiagnostic, Describe.message,
      Describe.severity, unclosedWords, Problem.closesBlock, toString, String.toList_append,
      List.append_assoc, isPrefixOf_self_append, List.any_cons, List.any_nil] <;>
    rfl

end Classes

namespace Er

/-- How a warning about a body without a closer starts. -/
def unclosedWords : List String := ["Attribute block of '"]

/-- Whether a problem is that something but its closer has closed a body. -/
def Problem.closesBlock : Problem → Bool
  | .unclosedBody _ | .bodyBeforeRelationship _ => true
  | _ => false

theorem warns_toDiagnostic (r : Report Problem) :
    r.toDiagnostic.warns unclosedWords = r.problem.closesBlock := by
  obtain ⟨problem, line, column⟩ := r
  cases problem <;>
    simp only [Diagnostic.warns, Diagnostic.isWarning, Report.toDiagnostic, Describe.message,
      Describe.severity, unclosedWords, Problem.closesBlock, toString, String.toList_append,
      List.append_assoc, isPrefixOf_self_append, List.any_cons, List.any_nil] <;>
    rfl

end Er

end DiagramText
