import IsisTestbed.Proofs.Address.RoundTrip
import IsisTestbed.Topology.Report
import Mathlib.Data.List.Basic

/-!
Indentation of reports. A report that starts further to the right is the same text with more blanks
in front of each line that is not empty. Each report is put together from lines of its own and from
reports below it, so there is one lemma on lines, one on texts below each other, and one for each kind
of report.
-/

namespace IsisTestbed

namespace Text

/-- Whether a text has no line break. -/
def IsLine (s : String) : Prop :=
  '\n' ∉ s.toList

instance (s : String) : Decidable (IsLine s) :=
  inferInstanceAs (Decidable (¬ _))

/-- The lines of a text. -/
def lines (s : String) : List String :=
  (s.toList.splitOn '\n').map String.ofList

/-- A line with blanks in front, unless it is empty. -/
def indentLine (n : Nat) (line : String) : String :=
  if line = "" then "" else indentation n ++ line

/-- A text with blanks in front of each line that is not empty. -/
def indentLines (n : Nat) (s : String) : String :=
  "\n".intercalate ((lines s).map (indentLine n))

section Lines

variable {s t : String} {n m : Nat}

/-! ### Texts on one line -/

@[simp]
theorem isLine_append : IsLine (s ++ t) ↔ IsLine s ∧ IsLine t := by
  simp [IsLine]

@[simp]
theorem isLine_number (k : Nat) : IsLine (number k) := by
  intro member
  rw [toList_number] at member
  exact absurd (isDigit_of_mem_decimal member) (by decide)

theorem isLine_intercalate {separator : String} {parts : List String} (h : IsLine separator)
    (each : ∀ part ∈ parts, IsLine part) : IsLine (separator.intercalate parts) := by
  induction parts with
  | nil => simp [IsLine]
  | cons part rest ih =>
    have first := each part List.mem_cons_self
    have later := ih fun p member => each p (List.mem_cons_of_mem _ member)
    cases rest with
    | nil => simpa using first
    | cons next more => simp [first, h, later]

/-! ### Lines of a text -/

theorem lines_of_isLine (h : IsLine s) : lines s = [s] := by
  rw [lines, List.splitOn_eq_singleton h, List.map_singleton, String.ofList_toList]

theorem lines_append (s t : String) : lines (s ++ "\n" ++ t) = lines s ++ lines t := by
  have characters : (s ++ "\n" ++ t).toList = s.toList ++ '\n' :: t.toList := by simp
  rw [lines, characters, List.splitOn_append_cons_self, List.map_append]
  rfl

theorem lines_ne_nil (s : String) : lines s ≠ [] := by
  simp [lines]

/-! ### More blanks -/

theorem indentation_add (n m : Nat) : indentation (n + m) = indentation n ++ indentation m := by
  rw [indentation, List.replicate_add, String.ofList_append]
  rfl

@[simp]
theorem isLine_indentation (n : Nat) : IsLine (indentation n) := by
  simp [IsLine, indentation]

/-- The blanks of a line that is already indented are more of them. -/
theorem indentLines_line (h : IsLine s) (inked : s ≠ "") (n m : Nat) :
    indentLines n (indentation m ++ s) = indentation (n + m) ++ s := by
  have whole : indentation m ++ s ≠ "" := by simp [inked]
  rw [indentLines, lines_of_isLine (isLine_append.mpr ⟨isLine_indentation m, h⟩), List.map_singleton,
    String.intercalate_singleton, indentLine, if_neg whole, indentation_add, String.append_assoc]

/-- A text below another one is indented for itself. -/
theorem indentLines_below (n : Nat) (s t : String) :
    indentLines n (s ++ "\n" ++ t) = indentLines n s ++ "\n" ++ indentLines n t := by
  rw [indentLines, lines_append, List.map_append,
    String.intercalate_append_of_ne_nil (by simp [lines_ne_nil]) (by simp [lines_ne_nil])]
  rfl

theorem indentLines_empty (n : Nat) : indentLines n "" = "" := by
  simp [indentLines, lines, indentLine]

/-- Texts below each other, however many they are, are indented each for itself. -/
theorem indentLines_intercalate (n : Nat) (parts : List String) :
    indentLines n ("\n".intercalate parts) = "\n".intercalate (parts.map (indentLines n)) := by
  induction parts with
  | nil => exact indentLines_empty n
  | cons part rest ih =>
    cases rest with
    | nil => simp
    | cons next more =>
      rw [String.intercalate_cons_cons, indentLines_below, ih]
      simp

example : indentLines 2 "a\n\n b" = "  a\n\n   b" := by decide

/-- A heading and the text below it, both further to the right. -/
theorem indentLines_heading (h : IsLine s) (inked : s ≠ "") (n m : Nat) (t : String) :
    indentLines n (indentation m ++ s ++ "\n" ++ t) =
      indentation (n + m) ++ s ++ "\n" ++ indentLines n t := by
  rw [indentLines_below, indentLines_line h inked]

end Lines

end Text

open Text

/-! ### Addresses -/

theorem Ipv4.isLine_text (ip : Ipv4) : IsLine ip.text := by
  simp [Ipv4.text, IsLine, Ipv4.not_mem_decimal]

theorem Ipv6.isLine_text (ip : Ipv6) : IsLine ip.text := by
  have groups (l : List UInt16) : '\n' ∉ colonText l := by
    rw [colonText_eq_colonJoined]
    intro member
    rcases mem_colonJoined member with colon | ⟨part, isPart, inside⟩
    · exact absurd colon (by decide)
    · exact (isGroupText_of_mem_map_hex isPart).not_mem (by decide) inside
  unfold Ipv6.text
  dsimp only
  split
  · exact isLine_append.mpr ⟨by decide, Ipv4.isLine_text _⟩
  · split <;> simp [IsLine, groups]

/-! ### Reports -/

namespace Link

/-- Whether the names of a link's ethernets are on one line each. -/
structure IsLined (l : Link) : Prop where
  ethernetA : IsLine l.ethernetA
  ethernetB : IsLine l.ethernetB

/-- The text of a link behind its indentation. -/
def line (l : Link) : String :=
  l.report 0

theorem report_eq (l : Link) (m : Nat) : l.report m = indentation m ++ l.line := by
  simp [line, report, indentation, String.append_assoc]

variable {l : Link}

theorem line_ne_empty (l : Link) : l.line ≠ "" := by
  simp [line, report]

theorem isLine_line (h : l.IsLined) : IsLine l.line := by
  have arrow : IsLine " <-> " := by decide
  simp only [line, report, isLine_append]
  refine ⟨⟨⟨⟨⟨⟨isLine_indentation 0, h.ethernetA⟩, arrow⟩, h.ethernetB⟩, by decide⟩, ?_⟩, by decide⟩
  apply isLine_intercalate (by decide)
  intro part member
  rcases List.mem_append.mp member with v4 | v6
  · obtain ⟨pair, _, rfl⟩ := List.mem_map.mp v4
    simp [Ipv4.isLine_text, arrow]
  · obtain ⟨pair, _, rfl⟩ := List.mem_map.mp v6
    simp [Ipv6.isLine_text, arrow]

theorem indentLines_report (h : l.IsLined) (n m : Nat) :
    indentLines n (l.report m) = l.report (n + m) := by
  rw [report_eq, report_eq, indentLines_line (isLine_line h) l.line_ne_empty]

end Link

namespace Attachment

/-- Whether the names of an attachment are on one line each. -/
structure IsLined (a : Attachment) : Prop where
  device : IsLine a.device
  link : a.link.IsLined

theorem report_eq (a : Attachment) (m : Nat) :
    a.report m = indentation m ++ (a.device ++ " -> node " ++ Text.number a.node) ++ "\n" ++
      a.link.report (m + 2) := by
  simp only [report, String.append_assoc]

theorem indentLines_report {a : Attachment} (h : a.IsLined) (n m : Nat) :
    indentLines n (a.report m) = a.report (n + m) := by
  have heading : IsLine (a.device ++ " -> node " ++ Text.number a.node) := by
    simp [h.device, show IsLine " -> node " by decide]
  rw [report_eq, report_eq, indentLines_heading heading (by simp), Link.indentLines_report h.link,
    Nat.add_assoc]

end Attachment

namespace Topology

variable {t : Topology}

/-- Whether the names and system ids of a topology are on one line each. -/
structure IsLined (t : Topology) : Prop where
  nodes : ∀ n ∈ t.nodes, IsLine n.name ∧ IsLine n.systemId
  edges : ∀ e ∈ t.edges, e.link.IsLined
  attachments : ∀ a ∈ t.attachments, a.IsLined

theorem indentLines_reportNode {node : Node} (h : IsLine node.name ∧ IsLine node.systemId)
    (n m index : Nat) :
    indentLines n (reportNode m index node) = reportNode (n + m) index node := by
  have form (k : Nat) : reportNode k index node = indentation k ++
      (Text.number index ++ ": " ++ node.name ++ " (system id " ++ node.systemId ++ ")") := by
    simp only [reportNode, String.append_assoc]
  have line : IsLine
      (Text.number index ++ ": " ++ node.name ++ " (system id " ++ node.systemId ++ ")") := by
    simp only [isLine_append]
    exact ⟨⟨⟨⟨⟨isLine_number index, by decide⟩, h.1⟩, by decide⟩, h.2⟩, by decide⟩
  rw [form, form, indentLines_line line (by simp)]

theorem indentLines_reportEdge {e : Edge} (h : e.link.IsLined) (n m : Nat) :
    indentLines n (reportEdge m e) = reportEdge (n + m) e := by
  have form (k : Nat) : reportEdge k e = indentation k ++
      (Text.number e.a ++ " -- " ++ Text.number e.b ++ ":") ++ "\n" ++ e.link.report (k + 2) := by
    have colon : ":\n" = ":" ++ "\n" := rfl
    simp only [reportEdge, colon, String.append_assoc]
  have line : IsLine (Text.number e.a ++ " -- " ++ Text.number e.b ++ ":") := by
    simp only [isLine_append]
    exact ⟨⟨⟨isLine_number e.a, by decide⟩, isLine_number e.b⟩, by decide⟩
  rw [form, form, indentLines_heading line (by simp), Link.indentLines_report h, Nat.add_assoc]

/-- A heading and, below it, the reports of some entries. -/
def headed {α : Type} (indent : Nat) (heading : String) (report : Nat → α → String)
    (entries : List α) : String :=
  indentation indent ++ heading ++ "\n" ++ "\n".intercalate (entries.map (report (indent + 2)))

theorem indentLines_headed {α : Type} {heading : String} {report : Nat → α → String}
    {entries : List α} {n : Nat} (line : IsLine heading) (inked : heading ≠ "")
    (each : ∀ e ∈ entries, ∀ m, indentLines n (report m e) = report (n + m) e) (m : Nat) :
    indentLines n (headed m heading report entries) = headed (n + m) heading report entries := by
  have entriesIn : (entries.map (report (m + 2))).map (indentLines n) =
      entries.map (report (n + m + 2)) := by
    rw [List.map_map]
    apply List.map_congr_left
    intro e member
    rw [Function.comp_apply, each e member, Nat.add_assoc]
  rw [headed, headed, indentLines_heading line inked, indentLines_intercalate, entriesIn]

theorem reportParts_eq (t : Topology) (m : Nat) : t.reportParts m =
    headed m "nodes:" (fun k node => reportNode k node.2 node.1) t.nodes.zipIdx ++ "\n" ++
      headed m "links:" reportEdge t.edges ++ "\n" ++
      headed m "attachments:" Attachment.report t.attachments := by
  have nodes : "nodes:\n" = "nodes:" ++ "\n" := rfl
  have links : "links:\n" = "links:" ++ "\n" := rfl
  have attachments : "attachments:\n" = "attachments:" ++ "\n" := rfl
  simp only [reportParts, headed, nodes, links, attachments, String.append_assoc]

theorem indentLines_reportParts (h : t.IsLined) (n m : Nat) :
    indentLines n (t.reportParts m) = t.reportParts (n + m) := by
  have nodes : ∀ node ∈ t.nodes.zipIdx, ∀ k,
      indentLines n (reportNode k node.2 node.1) = reportNode (n + k) node.2 node.1 := by
    intro node member k
    exact indentLines_reportNode (h.nodes node.1 (List.fst_mem_of_mem_zipIdx member)) n k node.2
  have edges : ∀ e ∈ t.edges, ∀ k, indentLines n (reportEdge k e) = reportEdge (n + k) e := by
    intro e member k
    exact indentLines_reportEdge (h.edges e member) n k
  have attachments : ∀ a ∈ t.attachments, ∀ k, indentLines n (a.report k) = a.report (n + k) := by
    intro a member k
    exact Attachment.indentLines_report (h.attachments a member) n k
  rw [reportParts_eq, reportParts_eq, indentLines_below, indentLines_below,
    indentLines_headed (by decide) (by decide) nodes,
    indentLines_headed (by decide) (by decide) edges,
    indentLines_headed (by decide) (by decide) attachments]

/-- The line that names the shape. -/
def shapeLine (t : Topology) : String :=
  match t.shape with
  | .grid rows cols => "grid " ++ Text.number rows ++ "x" ++ Text.number cols ++ ":"
  | .ring _ => "ring of " ++ Text.number t.size ++ ":"

theorem indentLines_report (h : t.IsLined) (n m : Nat) :
    indentLines n (t.report m) = t.report (n + m) := by
  have form (k : Nat) :
      t.report k = indentation k ++ t.shapeLine ++ "\n" ++ t.reportParts (k + 2) := by
    have colon : ":\n" = ":" ++ "\n" := rfl
    unfold report shapeLine
    cases t.shape <;> simp only [colon, String.append_assoc]
  have line : IsLine t.shapeLine := by
    unfold shapeLine
    cases t.shape <;> simp only [isLine_append, isLine_number, and_true] <;> decide
  have inked : t.shapeLine ≠ "" := by
    unfold shapeLine
    cases t.shape <;> simp
  rw [form, form, indentLines_heading line inked, indentLines_reportParts h, Nat.add_assoc]

/-- A report that starts further to the right has as many more blanks in front of each of its lines
that is not empty. This holds of links, of attachments, and of topologies of both shapes with and
without their heading, whatever there is of nodes, links and attachments. -/
theorem reports_indent (n m : Nat) :
    (∀ l : Link, l.IsLined → l.report (n + m) = indentLines n (l.report m)) ∧
    (∀ a : Attachment, a.IsLined → a.report (n + m) = indentLines n (a.report m)) ∧
    ∀ t : Topology, t.IsLined → t.reportParts (n + m) = indentLines n (t.reportParts m) ∧
      t.report (n + m) = indentLines n (t.report m) :=
  ⟨fun _ h => (Link.indentLines_report h n m).symm,
    fun _ h => (Attachment.indentLines_report h n m).symm,
    fun _ h => ⟨(indentLines_reportParts h n m).symm, (indentLines_report h n m).symm⟩⟩

/-- A ring of two nodes and one link, to which a tester is attached, and a topology without
anything. -/
theorem reports_indent_of_pair :
    let l : Link := ⟨"aeth1", "beth1", some (⟨10, 1, 2, 1⟩, ⟨10, 1, 2, 2⟩), none⟩
    let a : Attachment := ⟨"tester", 1, ⟨"testereth1", "beth2", none, none⟩⟩
    let t : Topology :=
      { shape := .ring 2, addressing := {}
        nodes := [⟨"a", "01", .station 0⟩, ⟨"b", "02", .station 1⟩]
        edges := [⟨0, 1, l⟩], attachments := [a] }
    let nothing : Topology := { shape := .grid 0 0, addressing := {} }
    l.report (4 + 2) = indentLines 4 (l.report 2) ∧ a.report (4 + 2) = indentLines 4 (a.report 2) ∧
      t.report (4 + 2) = indentLines 4 (t.report 2) ∧
      nothing.reportParts (4 + 0) = indentLines 4 (nothing.reportParts 0) := by
  intro l a t nothing
  have link : l.IsLined := ⟨by decide, by decide⟩
  have attachment : a.IsLined := ⟨by decide, by decide, by decide⟩
  obtain ⟨links, attachments, topologies⟩ := reports_indent 4 2
  refine ⟨links l link, attachments a attachment, (topologies t ⟨by decide, ?_, ?_⟩).2,
    ((reports_indent 4 0).2.2 nothing ⟨by simp [nothing], by simp [nothing], by simp [nothing]⟩).1⟩
  · simpa [t] using link
  · simpa [t] using attachment

end Topology

end IsisTestbed
