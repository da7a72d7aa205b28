import IsisTestbed.Topology.Basic

/-!
Topologies as indented text. Each report starts at a level of indentation that is given as a number
of blanks.
-/

namespace IsisTestbed

/-- Blanks at the start of a line. -/
def indentation (indent : Nat) : String :=
  String.ofList (List.replicate indent ' ')

/-- A link with the addresses at its ends, on one line. -/
def Link.report (indent : Nat) (l : Link) : String :=
  let v4 := l.v4.toList.map fun (a, b) => a.text ++ " <-> " ++ b.text
  let v6 := l.v6.toList.map fun (a, b) => a.text ++ " <-> " ++ b.text
  indentation indent ++ l.ethernetA ++ " <-> " ++ l.ethernetB ++ " (" ++
    ", ".intercalate (v4 ++ v6) ++ ")"

/-- An attachment and, below it, its link. -/
def Attachment.report (indent : Nat) (a : Attachment) : String :=
  indentation indent ++ a.device ++ " -> node " ++ Text.number a.node ++ "\n" ++
    a.link.report (indent + 2)

namespace Topology

/-- A node with its number and system id, on one line. -/
def reportNode (indent index : Nat) (n : Node) : String :=
  indentation indent ++ Text.number index ++ ": " ++ n.name ++ " (system id " ++ n.systemId ++ ")"

/-- The two ends of an edge and, below them, its link. -/
def reportEdge (indent : Nat) (e : Edge) : String :=
  indentation indent ++ Text.number e.a ++ " -- " ++ Text.number e.b ++ ":\n" ++
    e.link.report (indent + 2)

/-- The nodes, links and attachments. -/
def reportParts (indent : Nat) (t : Topology) : String :=
  let nodes := t.nodes.zipIdx.map fun (n, index) => reportNode (indent + 2) index n
  let edges := t.edges.map (reportEdge (indent + 2))
  let attachments := t.attachments.map (Attachment.report (indent + 2))
  indentation indent ++ "nodes:\n" ++ "\n".intercalate nodes ++ "\n" ++
    indentation indent ++ "links:\n" ++ "\n".intercalate edges ++ "\n" ++
    indentation indent ++ "attachments:\n" ++ "\n".intercalate attachments

/-- The shape and, below it, the parts. -/
def report (indent : Nat) (t : Topology) : String :=
  let heading := match t.shape with
    | .grid rows cols => "grid " ++ Text.number rows ++ "x" ++ Text.number cols
    | .ring _ => "ring of " ++ Text.number t.size
  indentation indent ++ heading ++ ":\n" ++ t.reportParts (indent + 2)

end Topology

end IsisTestbed
