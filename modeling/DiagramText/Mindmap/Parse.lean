import DiagramText.Distinct
import DiagramText.Mindmap.Statement
import DiagramText.Parsed
import DiagramText.Source.Line

/-!
# Reading mindmaps

The indentation of a line decides whose child its topic is.  The open topics form a spine whose
innermost frame is the topic read last.  A new topic closes every open one that is not indented
less, and the root stays open: a topic that is not indented below any open one becomes a child of
the root, with a warning.
-/

namespace DiagramText.Mindmap

open Source (Line)

/-- What can be wrong with a mindmap. -/
inductive Problem where
  | strayIcon
  | strayClasses
  | emptyLabel (text : String)
  | notBelowRoot (label : String)
  | noRoot
deriving Repr, DecidableEq

instance : Describe Problem where
  severity
    | .noRoot => .error
    | _ => .warning
  message
    | .strayIcon => "Icon without a node"
    | .strayClasses => "Class list without a node"
    | .emptyLabel text => s!"Empty node label: {text}"
    | .notBelowRoot label =>
      s!"Node '{label}' is not indented below the root; attaching it to the root"
    | .noRoot => "Mindmap must have at least one root node"
  suggestions _ := []

/-- An open topic and the indentation of its line. -/
structure Level where
  frame : Frame Topic
  indent : Int
deriving Repr

/-- The spine of open topics, innermost first, the number of topics and the problems so far. -/
structure State where
  spine : List Level := []
  count : Nat := 0
  reports : List (Report Problem) := []

/-- Records a problem with a line. -/
def State.report (st : State) (l : Line) (p : Problem) : State :=
  { st with reports := st.reports ++ [l.report p] }

/-- Closes the open topics from `v` outwards that are not indented less than `indent`, except for
the root.  The answer tells whether the innermost topic left is indented less. -/
def settle (indent : Int) (v : Level) : List Level → List Level × Bool
  | [] => ([v], v.indent < indent)
  | w :: rest =>
    if v.indent < indent then (v :: w :: rest, true)
    else settle indent { w with frame := w.frame.adopt v.frame.close } rest

/-- The spine with the topic of a new line as its innermost frame, and whether that topic stands
below the root. -/
def attach (topic : Topic) (indent : Int) : List Level → List Level × Bool
  | [] => ([⟨⟨topic, []⟩, indent⟩], true)
  | v :: rest =>
    let (spine, below) := settle indent v rest
    (⟨⟨topic, []⟩, indent⟩ :: spine, below)

/-- The tree of a spine whose topics take no more children. -/
def finish : List Level → Option (Tree Topic)
  | [] => none
  | v :: rest => some (v.frame.closeAll (rest.map (·.frame)))

/-- Changes the topic read last. -/
def State.decorate (st : State) (g : Topic → Topic) : State :=
  match st.spine with
  | [] => st
  | v :: rest => { st with spine := { v with frame := v.frame.map g } :: rest }

/-- Reads a line below the header. -/
def State.step (st : State) (l : Line) : State :=
  match Statement.recognise l.text with
  | .icon text =>
    if st.spine.isEmpty then st.report l .strayIcon
    else st.decorate fun t => { t with icon := some text }
  | .classes names =>
    if st.spine.isEmpty then st.report l .strayClasses
    else st.decorate fun t => { t with classes := addAllNew t.classes names }
  | .emptyLabel => st.report l (.emptyLabel l.text)
  | .topic shape label =>
    let topic : Topic := { id := s!"node-{st.count}", label, shape, line := l.number }
    let (spine, below) := attach topic l.indent st.spine
    let st := { st with spine, count := st.count + 1 }
    if below then st else st.report l (.notBelowRoot label)

/-- Reads a mindmap, whose first line is the header. -/
def parse (ls : List Line) : Parsed Map :=
  let st := ls.tail.foldl State.step {}
  let root := finish st.spine
  let missing : List (Report Problem) :=
    if root.isSome then []
    else [{ problem := .noRoot, line := (ls.head?.map (·.number)).getD 1 }]
  .ofReports ⟨root⟩ (st.reports ++ missing)

end DiagramText.Mindmap
