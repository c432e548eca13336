import ShaderWeave.Pipeline.Graph
import ShaderWeave.Proofs.Failures
import ShaderWeave.Proofs.Indentation

/-!
# Drawings are closed

A drawing declares a node for each property of a pipeline and for each task, and draws an edge for
each property in a list of a task.  The nodes are told from the classes, and the edges from the lists
of the tasks, after alias choice; **that they meet is due to the resolver, which puts every name its
tasks touch into one class.**

* `GraphLine.node?`, `GraphLine.ends?` — what a line of the drawing says.
* `Dot.nodes`, `Dot.edges` — what is read from a text, line by line.
* `GraphLine.reads_of_plain` — a line is read as what it says, if names have no quotes and break no
  line.  A label may do both: its quotes are escaped, so that no line of it looks like a node.
* `Pipeline.dot_closed` — the result.
-/

namespace ShaderWeave

/-! ## What lines say -/

namespace GraphLine

def propertyId (name : String) : String := "p_" ++ name

def taskId (position : Nat) : String := "t_" ++ toString position

/-- The node that a line declares. -/
def node? : GraphLine → Option String
  | property p _ => some (propertyId p.name)
  | task position _ => some (taskId position)
  | edge .. => none

/-- The ends of the edge that a line draws. -/
def ends? : GraphLine → Option (String × String)
  | edge position .writes name => some (taskId position, propertyId name)
  | edge position _ name => some (propertyId name, taskId position)
  | _ => none

lemma ends?_edge (position : Nat) (access : Access) (name : String) :
    ends? (edge position access name) = some (if access = .writes then
      (taskId position, propertyId name) else (propertyId name, taskId position)) := by
  cases access <;> rfl

lemma propertyId_injective : Function.Injective propertyId :=
  fun _ _ h => (String.append_right_inj _).1 h

lemma taskId_injective : Function.Injective taskId := by
  intro m n h
  have hdigits : Nat.toDigits 10 m = Nat.toDigits 10 n := by
    simpa [taskId] using congrArg String.toList h
  calc m = Nat.ofDigitChars 10 (Nat.toDigits 10 m) 0 := Nat.ofDigitChars_ten_toDigits.symm
    _ = Nat.ofDigitChars 10 (Nat.toDigits 10 n) 0 := by rw [hdigits]
    _ = n := Nat.ofDigitChars_ten_toDigits

lemma propertyId_ne_taskId (name : String) (position : Nat) :
    propertyId name ≠ taskId position := by
  intro h
  have hchars := congrArg String.toList h
  simp [propertyId, taskId] at hchars

end GraphLine

open GraphLine (propertyId taskId)

/-- The edges of a task: one for each property in its lists. -/
def Task.arrows (task : Task) (aliases : Aliases) (position : Nat) : List (String × String) :=
  (task.lists.inputs.entries ++ task.lists.consuming.entries ++ task.lists.filters.entries).map
      (fun spec => (propertyId (aliases.choice spec.name), taskId position))
    ++ task.lists.outputs.entries.map
      (fun spec => (taskId position, propertyId (aliases.choice spec.name)))

/-- Every end of an edge is declared by one node. -/
def Closed (nodes : List String) (edges : List (String × String)) : Prop :=
  ∀ edge ∈ edges, nodes.count edge.1 = 1 ∧ nodes.count edge.2 = 1

section Lines

variable {aliases : Aliases} {pipeline : Pipeline} {tasks : List Task}

lemma Task.nodes_graph (task : Task) (aliases : Aliases) (position : Nat) :
    (task.graph aliases position).filterMap GraphLine.node? = [taskId position] := by
  simp [Task.graph, GraphLine.node?, List.filterMap_map, Function.comp_def]

lemma Task.ends_graph (task : Task) (aliases : Aliases) (position : Nat) :
    (task.graph aliases position).filterMap GraphLine.ends? = task.arrows aliases position := by
  have htask : GraphLine.ends? (.task position task.label) = none := rfl
  simp [Task.graph, htask, GraphLine.ends?_edge, Task.arrows, PropertyList.names,
    List.filterMap_map, Function.comp_def]

/-- The lines of a pipeline whose tasks are all known. -/
lemma Pipeline.graph_eq {resolver : Resolver}
    (h : pipeline.items.map resolver.task? = tasks.map some) :
    pipeline.graph resolver aliases = pipeline.classified.map (fun entry => .property entry.1 entry.2)
      ++ tasks.zipIdx.flatMap fun step => step.1.graph aliases step.2 := by
  have hsteps : pipeline.items.zipIdx.flatMap (fun step => ((resolver.task? step.1).map fun task =>
      task.graph aliases step.2).getD [])
        = tasks.zipIdx.flatMap fun step => step.1.graph aliases step.2 := by
    have hzip := congrArg List.zipIdx h
    rw [List.zipIdx_map, List.zipIdx_map] at hzip
    have hdrawn := congrArg (List.flatMap fun step : Option Task × Nat =>
      (step.1.map fun task => task.graph aliases step.2).getD []) hzip
    simpa [List.flatMap_map] using hdrawn
  rw [Pipeline.graph, ← hsteps]
  congr 2
  funext ⟨key, position⟩
  dsimp only
  cases resolver.task? key <;> rfl

lemma Pipeline.nodes_graph {resolver : Resolver}
    (h : pipeline.items.map resolver.task? = tasks.map some) :
    (pipeline.graph resolver aliases).filterMap GraphLine.node?
      = pipeline.classified.map (fun entry => propertyId entry.1.name)
        ++ (List.range tasks.length).map taskId := by
  rw [Pipeline.graph_eq h, List.filterMap_append, List.filterMap_map, List.filterMap_flatMap]
  simp only [Task.nodes_graph]
  rw [← List.map_eq_flatMap, List.range_eq_range', ← List.zipIdx_map_snd, List.map_map]
  simp [GraphLine.node?, Function.comp_def]

lemma Pipeline.ends_graph {resolver : Resolver}
    (h : pipeline.items.map resolver.task? = tasks.map some) :
    (pipeline.graph resolver aliases).filterMap GraphLine.ends?
      = tasks.zipIdx.flatMap fun step => step.1.arrows aliases step.2 := by
  rw [Pipeline.graph_eq h, List.filterMap_append, List.filterMap_map, List.filterMap_flatMap]
  simp only [Task.ends_graph]
  simp [GraphLine.ends?, Function.comp_def]

lemma Pipeline.mem_classified {p : Property} {cls : PropertyClass} :
    (p, cls) ∈ pipeline.classified ↔ p ∈ (pipeline.list cls).entries := by
  simp [Pipeline.classified, cls.mem_all]

lemma Pipeline.Disjoint.nodup_classified (h : pipeline.Disjoint) :
    (pipeline.classified.map fun entry => entry.1.name).Nodup := by
  have hnames : pipeline.classified.map (fun entry => entry.1.name)
      = PropertyClass.all.flatMap fun cls => (pipeline.list cls).names := by
    simp [Pipeline.classified, List.map_flatMap, PropertyList.names, Function.comp_def]
  have hall : PropertyClass.all.Nodup := by decide
  rw [hnames, List.nodup_flatMap]
  refine ⟨fun cls _ => (pipeline.list cls).nodup, hall.imp ?_⟩
  intro cls cls' hne name hname hname'
  exact hne (h hname hname')

lemma Pipeline.Disjoint.nodup_nodes (h : pipeline.Disjoint) (count : Nat) :
    (pipeline.classified.map (fun entry => propertyId entry.1.name)
      ++ (List.range count).map taskId).Nodup := by
  refine List.nodup_append'.2 ⟨?_, ?_, ?_⟩
  · have hids := h.nodup_classified.map GraphLine.propertyId_injective
    rwa [List.map_map] at hids
  · exact List.nodup_range.map GraphLine.taskId_injective
  · intro node hproperty htask
    obtain ⟨entry, -, rfl⟩ := List.mem_map.1 hproperty
    obtain ⟨position, -, heq⟩ := List.mem_map.1 htask
    exact GraphLine.propertyId_ne_taskId _ _ heq.symm

/-- **The lines are closed,** if no class shares a name with another and the names that tasks list are
in classes. -/
lemma Pipeline.closed_graph {resolver : Resolver}
    (h : pipeline.items.map resolver.task? = tasks.map some) (hdisjoint : pipeline.Disjoint)
    (hlisted : ∀ task ∈ tasks, ∀ p ∈ task.lists.all,
      ∃ cls, aliases.choice p.name ∈ (pipeline.list cls).names) :
    Closed ((pipeline.graph resolver aliases).filterMap GraphLine.node?)
      ((pipeline.graph resolver aliases).filterMap GraphLine.ends?) := by
  rw [Pipeline.nodes_graph h, Pipeline.ends_graph h]
  have hnodup := hdisjoint.nodup_nodes tasks.length
  rintro edge hedge
  obtain ⟨⟨task, position⟩, hstep, harrow⟩ := List.mem_flatMap.1 hedge
  have hat := List.mem_zipIdx_iff_getElem?.1 hstep
  have htask : taskId position ∈ pipeline.classified.map (fun entry => propertyId entry.1.name)
      ++ (List.range tasks.length).map taskId :=
    List.mem_append_right _ (List.mem_map_of_mem
      (List.mem_range.2 (List.getElem?_eq_some_iff.1 hat).1))
  have hproperty : ∀ p ∈ task.lists.all, propertyId (aliases.choice p.name)
      ∈ pipeline.classified.map (fun entry => propertyId entry.1.name)
        ++ (List.range tasks.length).map taskId := by
    intro p hp
    obtain ⟨cls, hcls⟩ := hlisted task (List.mem_of_getElem? hat) p hp
    obtain ⟨held, hheld, hname⟩ := PropertyList.mem_names.1 hcls
    refine List.mem_append_left _ (List.mem_map.2 ⟨(held, cls), mem_classified.2 hheld, ?_⟩)
    exact congrArg propertyId hname
  rcases List.mem_append.1 harrow with harrow | harrow
  · obtain ⟨p, hp, rfl⟩ := List.mem_map.1 harrow
    refine ⟨List.count_eq_one_of_mem hnodup (hproperty p ?_),
      List.count_eq_one_of_mem hnodup htask⟩
    simp only [List.mem_append] at hp
    simp only [TaskLists.all, List.mem_append]
    tauto
  · obtain ⟨p, hp, rfl⟩ := List.mem_map.1 harrow
    refine ⟨List.count_eq_one_of_mem hnodup htask,
      List.count_eq_one_of_mem hnodup (hproperty p ?_)⟩
    simp only [TaskLists.all, List.mem_append]
    tauto

end Lines

/-! ## What is read from a text -/

namespace Dot

/-- What stands between the quotes at the start, and what comes behind them. -/
def quoted? : List Char → Option (List Char × List Char)
  | '"' :: rest =>
    match rest.dropWhile (· ≠ '"') with
    | _ :: behind => some (rest.takeWhile (· ≠ '"'), behind)
    | [] => none
  | _ => none

/-- What comes behind an arrow. -/
def arrow? : List Char → Option (List Char)
  | ' ' :: '-' :: '>' :: ' ' :: behind => some behind
  | _ => none

/-- The node that a line of a text declares: a tab, a name in quotes, and attributes. -/
def node? : List Char → Option String
  | '\t' :: rest => (quoted? rest).bind fun found =>
    if [' ', '['] <+: found.2 then some (String.ofList found.1) else none
  | _ => none

/-- The ends of the edge that a line of a text draws: a tab, and two names in quotes around an
arrow. -/
def edge? : List Char → Option (String × String)
  | '\t' :: rest => (quoted? rest).bind fun source => (arrow? source.2).bind fun behind =>
    (quoted? behind).map fun target => (String.ofList source.1, String.ofList target.1)
  | _ => none

/-- The nodes that a text declares, line by line. -/
def nodes (text : String) : List String := (Text.splitLines text.toList).filterMap node?

/-- The edges that a text draws, line by line. -/
def edges (text : String) : List (String × String) :=
  (Text.splitLines text.toList).filterMap edge?

variable {id source target behind line rest : List Char}

lemma quoted?_append (h : '"' ∉ id) (behind : List Char) :
    quoted? ('"' :: (id ++ '"' :: behind)) = some (id, behind) := by
  have hall : ∀ c ∈ id, (decide (c ≠ '"')) = true := by
    intro c hc
    exact decide_eq_true fun heq => h (heq ▸ hc)
  rw [quoted?, List.dropWhile_append_of_pos hall, List.takeWhile_append_of_pos hall]
  simp

lemma quoted?_unclosed (h : '"' ∉ rest) : quoted? ('"' :: rest) = none := by
  have hall : ∀ c ∈ rest, (decide (c ≠ '"')) = true := by
    intro c hc
    exact decide_eq_true fun heq => h (heq ▸ hc)
  rw [quoted?, List.dropWhile_eq_nil_iff.2 hall]

lemma node?_of_attributes (h : '"' ∉ id) (behind : List Char) :
    node? ('\t' :: '"' :: (id ++ '"' :: ' ' :: '[' :: behind)) = some (String.ofList id) ∧
      edge? ('\t' :: '"' :: (id ++ '"' :: ' ' :: '[' :: behind)) = none := by
  simp [node?, edge?, quoted?_append h, arrow?]

lemma edge?_of_arrow (hsource : '"' ∉ source) (htarget : '"' ∉ target) (behind : List Char) :
    node? ('\t' :: '"' :: (source ++ '"' :: ' ' :: '-' :: '>' :: ' ' :: '"' ::
        (target ++ '"' :: behind))) = none ∧
      edge? ('\t' :: '"' :: (source ++ '"' :: ' ' :: '-' :: '>' :: ' ' :: '"' ::
        (target ++ '"' :: behind))) = some (String.ofList source, String.ofList target) := by
  simp [node?, edge?, quoted?_append hsource, arrow?, quoted?_append htarget]

/-- Every quote of a line has a backslash before it, except for the last one. -/
def Escaped (line : List Char) : Prop :=
  ∀ front behind, line = front ++ '"' :: behind → '"' ∈ behind → front.getLast? = some '\\'

/-- **Nothing is read from a line whose quotes are escaped:** a name would start with a quote behind
a tab. -/
lemma Escaped.unread (h : Escaped line) : node? line = none ∧ edge? line = none := by
  have hquoted : ∀ rest, line = '\t' :: rest → quoted? rest = none := by
    rintro rest rfl
    cases rest with
    | nil => rfl
    | cons c rest =>
        by_cases hc : c = '"'
        · subst hc
          refine quoted?_unclosed fun hmem => ?_
          have hlast := h ['\t'] rest rfl hmem
          simp at hlast
        · exact quoted?.eq_2 _ fun _ heq => hc (List.cons.inj heq).1
  cases line with
  | nil => exact ⟨rfl, rfl⟩
  | cons c rest =>
      by_cases hc : c = '\t'
      · subst hc
        simp [node?, edge?, hquoted rest rfl]
      · exact ⟨node?.eq_2 _ fun _ heq => hc (List.cons.inj heq).1,
          edge?.eq_2 _ fun _ heq => hc (List.cons.inj heq).1⟩

lemma Escaped.cons {c : Char} (h : Escaped line) (hc : c ≠ '"') : Escaped (c :: line) := by
  intro front behind heq hmem
  cases front with
  | nil => exact absurd (List.cons.inj heq).1 hc
  | cons d front =>
      have hlast := h front behind (List.cons.inj heq).2 hmem
      cases front with
      | nil => simp at hlast
      | cons e front => rwa [List.getLast?_cons_cons]

lemma Escaped.quote (h : Escaped line) : Escaped ('\\' :: '"' :: line) := by
  intro front behind heq hmem
  cases front with
  | nil => cases (List.cons.inj heq).1
  | cons c front =>
      obtain ⟨rfl, hrest⟩ := List.cons.inj heq
      cases front with
      | nil => rfl
      | cons d front =>
          have hlast := h front behind (List.cons.inj hrest).2 hmem
          cases front with
          | nil => simp at hlast
          | cons e front => rwa [List.getLast?_cons_cons, List.getLast?_cons_cons]

end Dot

namespace Text

variable {line front cs : List Char} {lines : List (List Char)}

/-- A character in front of a text belongs to its first line, or to the end of a line that is
empty. -/
lemma splitLines_cons_or {c : Char} (hc : c ≠ '\n') (h : splitLines cs = line :: lines) :
    splitLines (c :: cs) = (c :: line) :: lines ∨ splitLines (c :: cs) = line :: lines := by
  by_cases hreturn : c = '\r' → cs.head? ≠ some '\n'
  · exact Or.inl (splitLines_cons hc hreturn h)
  · obtain ⟨rfl, hhead⟩ := Classical.not_imp.1 hreturn
    obtain ⟨rest, rfl⟩ := List.head?_eq_some_iff.1 (not_not.1 hhead)
    right
    rw [← h, splitLines, splitLines]

lemma splitLines_append (hfront : ∀ c ∈ front, c ≠ '\n' ∧ c ≠ '\r')
    (h : splitLines cs = line :: lines) : splitLines (front ++ cs) = (front ++ line) :: lines := by
  induction front with
  | nil => exact h
  | cons c front ih =>
      obtain ⟨hnewline, hreturn⟩ := hfront c List.mem_cons_self
      exact splitLines_cons hnewline (fun heq => absurd heq hreturn)
        (ih fun d hd => hfront d (List.mem_cons_of_mem _ hd))

end Text

open Text (splitLines)

lemma GraphLine.toList_escapeLabel (label : String) : (GraphLine.escapeLabel label).toList
    = label.toList.flatMap fun c => if c = '"' then ['\\', '"'] else [c] := by
  rw [GraphLine.escapeLabel, String.toList_join, List.flatMap_map]
  refine List.flatMap_congr fun c _ => ?_
  split <;> simp

/-- The lines of an escaped label, up to the quote that closes it, have escaped quotes. -/
lemma GraphLine.escaped_label (label behind rest : List Char) (hquote : '"' ∉ behind)
    (hnewline : '\n' ∉ behind) (hreturn : behind.getLast? ≠ some '\r') :
    ∃ first others, splitLines (label.flatMap (fun c => if c = '"' then ['\\', '"'] else [c])
        ++ '"' :: (behind ++ '\n' :: rest)) = first :: others ++ splitLines rest ∧
      ∀ line ∈ first :: others, Dot.Escaped line := by
  induction label with
  | nil =>
      refine ⟨'"' :: behind, [], ?_, ?_⟩
      · rw [List.flatMap_nil, List.nil_append, ← List.cons_append]
        refine Text.splitLines_line ?_ ?_ rest
        · simpa using hnewline
        · cases behind with
          | nil => simp
          | cons c behind => rwa [List.getLast?_cons_cons]
      · rintro line (_ | ⟨_, ⟨⟩⟩) front back heq hmem
        cases front with
        | nil => exact absurd ((List.cons.inj heq).2 ▸ hmem) hquote
        | cons c front =>
            refine absurd ?_ hquote
            rw [(List.cons.inj heq).2]
            simp
  | cons c label ih =>
      obtain ⟨first, others, hlines, hescaped⟩ := ih
      have hfirst := hescaped first List.mem_cons_self
      have hothers : ∀ line ∈ others, Dot.Escaped line :=
        fun line hline => hescaped line (List.mem_cons_of_mem _ hline)
      rw [List.flatMap_cons, List.append_assoc]
      by_cases hc : c = '"'
      · subst hc
        refine ⟨'\\' :: '"' :: first, others, ?_, List.forall_mem_cons.2 ⟨hfirst.quote, hothers⟩⟩
        exact Text.splitLines_append
          (show ∀ c ∈ ['\\', '"'], c ≠ '\n' ∧ c ≠ '\r' by simp) hlines
      · rw [if_neg hc, List.singleton_append]
        by_cases hend : c = '\n'
        · subst hend
          refine ⟨[], first :: others, by rw [splitLines, hlines]; rfl, ?_⟩
          refine List.forall_mem_cons.2 ⟨fun front behind heq => ?_, hescaped⟩
          simp at heq
        · rcases Text.splitLines_cons_or hend hlines with hline | hline
          · exact ⟨c :: first, others, hline, List.forall_mem_cons.2 ⟨hfirst.cons hc, hothers⟩⟩
          · exact ⟨first, others, hline, hescaped⟩

/-- A name without quotes that breaks no line. -/
def Dot.Plain (name : String) : Prop := '"' ∉ name.toList ∧ '\n' ∉ name.toList

instance (name : String) : Decidable (Dot.Plain name) :=
  inferInstanceAs (Decidable ('"' ∉ name.toList ∧ '\n' ∉ name.toList))

namespace GraphLine

/-- The names of a line are plain, and its type breaks no line.  Labels of tasks do not matter. -/
def Plain : GraphLine → Prop
  | property p _ => Dot.Plain p.name ∧ '\n' ∉ p.type.shortName.toList
  | task .. => True
  | edge _ _ name => Dot.Plain name

/-- A line that stands in a text is read as what it says. -/
def Reads (line : GraphLine) : Prop :=
  ∀ rest, ∃ lines, splitLines (line.render.toList ++ rest) = lines ++ splitLines rest ∧
    lines.filterMap Dot.node? = line.node?.toList ∧ lines.filterMap Dot.edge? = line.ends?.toList

variable {line : GraphLine}

lemma reads_of_single (chars : List Char) (hrender : line.render.toList = chars ++ [';', '\n'])
    (hnewline : '\n' ∉ chars) (hnode : Dot.node? (chars ++ [';']) = line.node?)
    (hedge : Dot.edge? (chars ++ [';']) = line.ends?) : line.Reads := by
  intro rest
  have hsplit : splitLines (line.render.toList ++ rest) = (chars ++ [';']) :: splitLines rest := by
    have hline : splitLines (chars ++ [';'] ++ '\n' :: rest) = (chars ++ [';']) :: splitLines rest :=
      Text.splitLines_line (by simpa using hnewline) (by simp) rest
    simpa [hrender] using hline
  refine ⟨[chars ++ [';']], hsplit, ?_, ?_⟩
  · rw [← hnode]
    cases hfound : Dot.node? (chars ++ [';']) <;> simp [hfound]
  · rw [← hedge]
    cases hfound : Dot.edge? (chars ++ [';']) <;> simp [hfound]

lemma plain_propertyId {name : String} (h : Dot.Plain name) : Dot.Plain (propertyId name) := by
  obtain ⟨hquote, hnewline⟩ := h
  simp [Dot.Plain, propertyId, hquote, hnewline]

/-- Nodes of tasks are made of letters, digits and an underscore. -/
lemma mem_taskId {position : Nat} {c : Char} (h : c ∈ (taskId position).toList) :
    c ≠ '"' ∧ c ≠ '\n' ∧ c ≠ '\r' := by
  have hchars : c = 't' ∨ c = '_' ∨ c ∈ Nat.toDigits 10 position := by
    simpa [taskId] using h
  rcases hchars with rfl | rfl | hdigit
  · decide
  · decide
  · have hc := Nat.isDigit_of_mem_toDigits (by decide) (by decide) hdigit
    refine ⟨?_, ?_, ?_⟩ <;> rintro rfl <;> exact absurd hc (by decide)

lemma plain_taskId (position : Nat) : Dot.Plain (taskId position) :=
  ⟨fun h => (mem_taskId h).1 rfl, fun h => (mem_taskId h).2.1 rfl⟩

lemma reads_property {p : Property} {cls : PropertyClass} (h : (property p cls).Plain) :
    (property p cls).Reads := by
  obtain ⟨hname, htype⟩ := h
  have hid := plain_propertyId hname
  have hlabel : '\n' ∉ cls.label.toList := by cases cls <;> decide
  let behind := ("label=\"" ++ p.name ++ ": " ++ p.type.shortName ++ "\\n(" ++ cls.label
    ++ ")\", shape=ellipse]").toList
  obtain ⟨hnode, hedge⟩ := Dot.node?_of_attributes hid.1 (behind ++ [';'])
  refine reads_of_single ('\t' :: '"' :: ((propertyId p.name).toList ++ '"' :: ' ' :: '[' :: behind))
    ?_ ?_ ?_ ?_
  · simp [behind, render, propertyNode, propertyId]
  · simp [behind, hid.2, hname.2, htype, hlabel]
  · simpa [node?] using hnode
  · simpa [ends?] using hedge

lemma reads_task (position : Nat) (label : String) : (task position label).Reads := by
  intro rest
  let start := '\t' :: '"' :: ((taskId position).toList ++ '"' :: ' ' :: '[' :: "label=\"".toList)
  obtain ⟨first, others, hlines, hescaped⟩ := escaped_label label.toList ", shape=box];".toList rest
    (by decide) (by decide) (by decide)
  have hstart : ∀ c ∈ start, c ≠ '\n' ∧ c ≠ '\r' := by
    have hattributes : ∀ c ∈ '"' :: ' ' :: '[' :: "label=\"".toList, c ≠ '\n' ∧ c ≠ '\r' := by
      simp
    exact List.forall_mem_cons.2 ⟨by decide, List.forall_mem_cons.2 ⟨by decide,
      List.forall_mem_append.2 ⟨fun c hc => (mem_taskId hc).2, hattributes⟩⟩⟩
  rw [List.cons_append] at hlines
  have hsplit := Text.splitLines_append hstart hlines
  have hothers : ∀ line ∈ others, Dot.node? line = none ∧ Dot.edge? line = none :=
    fun line hline => (hescaped line (List.mem_cons_of_mem _ hline)).unread
  obtain ⟨hnode, hedge⟩ :=
    Dot.node?_of_attributes (plain_taskId position).1 ("label=\"".toList ++ first)
  refine ⟨(start ++ first) :: others, ?_, ?_, ?_⟩
  · rw [List.cons_append, ← hsplit]
    simp [start, render, taskNode, taskId, toList_escapeLabel]
  · rw [List.filterMap_cons_some (b := taskId position), List.filterMap_eq_nil_iff.2]
    · rfl
    · exact fun line hline => (hothers line hline).1
    · simpa [start] using hnode
  · rw [List.filterMap_cons_none, List.filterMap_eq_nil_iff.2]
    · rfl
    · exact fun line hline => (hothers line hline).2
    · simpa [start] using hedge

lemma reads_edge {position : Nat} {access : Access} {name : String}
    (h : (edge position access name).Plain) : (edge position access name).Reads := by
  have hproperty := plain_propertyId h
  have htask := plain_taskId position
  have hinto : ∀ attributes : String, '\n' ∉ attributes.toList →
      (edge position access name).render = "\t" ++ propertyNode name ++ " -> " ++ taskNode position
        ++ attributes ++ ";\n" →
      (edge position access name).ends? = some (propertyId name, taskId position) →
      (edge position access name).Reads := by
    intro attributes hattributes hrender hends
    obtain ⟨hnode, hedge⟩ :=
      Dot.edge?_of_arrow hproperty.1 htask.1 (attributes.toList ++ [';'])
    refine reads_of_single ('\t' :: '"' :: ((propertyId name).toList ++ '"' :: ' ' :: '-' :: '>' ::
      ' ' :: '"' :: ((taskId position).toList ++ '"' :: attributes.toList))) ?_ ?_ ?_ ?_
    · simp [hrender, propertyNode, taskNode, propertyId, taskId]
    · simp [hproperty.2, htask.2, hattributes]
    · simpa [node?] using hnode
    · simpa [hends] using hedge
  cases access with
  | reads => exact hinto "" (by decide) (by simp [render, String.append_assoc]) rfl
  | consumes => exact hinto " [style=dashed]" (by decide) (by simp [render, String.append_assoc]) rfl
  | filters => exact hinto " [dir=both]" (by decide) (by simp [render, String.append_assoc]) rfl
  | writes =>
      obtain ⟨hnode, hedge⟩ := Dot.edge?_of_arrow htask.1 hproperty.1 [';']
      refine reads_of_single ('\t' :: '"' :: ((taskId position).toList ++ '"' :: ' ' :: '-' :: '>' ::
        ' ' :: '"' :: ((propertyId name).toList ++ ['"']))) ?_ ?_ ?_ ?_
      · simp [render, propertyNode, taskNode, propertyId, taskId]
      · simp [hproperty.2, htask.2]
      · simpa [node?] using hnode
      · simpa [ends?] using hedge

/-- **A plain line is read as what it says.** -/
lemma reads_of_plain (h : line.Plain) : line.Reads := by
  cases line with
  | property p cls => exact reads_property h
  | task position label => exact reads_task position label
  | edge position access name => exact reads_edge h

end GraphLine

namespace Pipeline

variable {pipeline : Pipeline} {resolver : Resolver} {aliases : Aliases} {tasks : List Task}

/-- Plain lines one after the other are read one after the other. -/
lemma read_lines {lines : List GraphLine} (h : ∀ line ∈ lines, line.Plain) (rest : List Char) :
    ∃ read, splitLines ((lines.map GraphLine.render).flatMap String.toList ++ rest)
        = read ++ splitLines rest ∧
      read.filterMap Dot.node? = lines.filterMap GraphLine.node? ∧
      read.filterMap Dot.edge? = lines.filterMap GraphLine.ends? := by
  induction lines with
  | nil => exact ⟨[], rfl, rfl, rfl⟩
  | cons line lines ih =>
      obtain ⟨hline, hlines⟩ := List.forall_mem_cons.1 h
      obtain ⟨later, hlater, hnodes, hends⟩ := ih hlines
      obtain ⟨first, hfirst, hnode, hend⟩ := GraphLine.reads_of_plain hline
        ((lines.map GraphLine.render).flatMap String.toList ++ rest)
      refine ⟨first ++ later, ?_, ?_, ?_⟩
      · rw [List.map_cons, List.flatMap_cons, List.append_assoc, hfirst, hlater, List.append_assoc]
      · rw [List.filterMap_append, hnode, hnodes]
        cases hsaid : line.node? <;> simp [hsaid]
      · rw [List.filterMap_append, hend, hends]
        cases hsaid : line.ends? <;> simp [hsaid]

lemma dot_eq (pipeline : Pipeline) (resolver : Resolver) (aliases : Aliases) :
    pipeline.dot resolver aliases = "digraph pipeline \x7b\n\trankdir=LR;\n"
      ++ String.join ((pipeline.graph resolver aliases).map GraphLine.render) ++ "\x7d\n" := rfl

/-- The lines in front of the nodes. -/
def header : List (List Char) := ["digraph pipeline \x7b".toList, "\trankdir=LR;".toList]

lemma toList_dot (pipeline : Pipeline) (resolver : Resolver) (aliases : Aliases) :
    (pipeline.dot resolver aliases).toList = header.flatMap (· ++ ['\n'])
      ++ (((pipeline.graph resolver aliases).map GraphLine.render).flatMap String.toList
        ++ ['\x7d', '\n']) := by
  have hstart : "digraph pipeline \x7b\n\trankdir=LR;\n".toList
      = header.flatMap (· ++ ['\n']) := by decide +kernel
  rw [dot_eq, String.toList_append, String.toList_append, String.toList_join, hstart,
    List.append_assoc]
  rfl

/-- **A drawing with plain lines is read as what its lines say.** -/
lemma read_dot (h : ∀ line ∈ pipeline.graph resolver aliases, line.Plain) :
    Dot.nodes (pipeline.dot resolver aliases)
        = (pipeline.graph resolver aliases).filterMap GraphLine.node? ∧
      Dot.edges (pipeline.dot resolver aliases)
        = (pipeline.graph resolver aliases).filterMap GraphLine.ends? := by
  obtain ⟨read, hread, hnodes, hends⟩ := read_lines h ['\x7d', '\n']
  have hsplit : splitLines (pipeline.dot resolver aliases).toList
      = header ++ (read ++ [['\x7d']]) := by
    have hlines : ∀ line ∈ header, '\n' ∉ line ∧ line.getLast? ≠ some '\r' := by decide +kernel
    rw [toList_dot, Text.splitLines_flatMap hlines, hread]
    rfl
  have hheader : header.filterMap Dot.node? = [] ∧ header.filterMap Dot.edge? = [] := by decide
  have hfooter : [['\x7d']].filterMap Dot.node? = [] ∧ [['\x7d']].filterMap Dot.edge? = [] := by
    decide
  constructor
  · rw [Dot.nodes, hsplit, List.filterMap_append, List.filterMap_append, hheader.1, hfooter.1, hnodes,
      List.nil_append, List.append_nil]
  · rw [Dot.edges, hsplit, List.filterMap_append, List.filterMap_append, hheader.2, hfooter.2, hends,
      List.nil_append, List.append_nil]

/-- The lines of a drawing are plain if the properties of its pipeline are. -/
lemma plain_graph (h : pipeline.items.map resolver.task? = tasks.map some)
    (hlisted : ∀ task ∈ tasks, ∀ p ∈ task.lists.all,
      ∃ cls, aliases.choice p.name ∈ (pipeline.list cls).names)
    (hplain : ∀ cls, ∀ p ∈ (pipeline.list cls).entries,
      Dot.Plain p.name ∧ '\n' ∉ p.type.shortName.toList) :
    ∀ line ∈ pipeline.graph resolver aliases, line.Plain := by
  intro line hline
  rw [graph_eq h] at hline
  rcases List.mem_append.1 hline with hline | hline
  · obtain ⟨⟨p, cls⟩, hp, rfl⟩ := List.mem_map.1 hline
    exact hplain cls p (mem_classified.1 hp)
  · obtain ⟨⟨task, position⟩, hstep, hline⟩ := List.mem_flatMap.1 hline
    have htask := List.mem_of_getElem? (List.mem_zipIdx_iff_getElem?.1 hstep)
    have hedges : ∀ access, line ∈ (task.lists.under access).names.map
        (fun name => GraphLine.edge position access (aliases.choice name)) → line.Plain := by
      intro access hmem
      obtain ⟨name, hname, rfl⟩ := List.mem_map.1 hmem
      obtain ⟨p, hp, rfl⟩ := PropertyList.mem_names.1 hname
      obtain ⟨cls, hcls⟩ := hlisted task htask p (StagePlan.mem_all_iff.2 ⟨access, hp⟩)
      obtain ⟨held, hheld, heq⟩ := PropertyList.mem_names.1 hcls
      have hname := (hplain cls held hheld).1
      rwa [heq] at hname
    simp only [Task.graph, List.mem_append, List.mem_cons] at hline
    rcases hline with (((rfl | hline) | hline) | hline) | hline
    · trivial
    · exact hedges .reads hline
    · exact hedges .consumes hline
    · exact hedges .filters hline
    · exact hedges .writes hline

/-- **What a drawing shows:** a node for every property and for every task, an edge for every property
in a list of a task, and no end of an edge without its one node. -/
structure Draws (pipeline : Pipeline) (tasks : List Task) (aliases : Aliases) (nodes : List String)
    (edges : List (String × String)) : Prop where
  declared : nodes = pipeline.classified.map (fun entry => propertyId entry.1.name)
    ++ (List.range tasks.length).map taskId
  drawn : edges = tasks.zipIdx.flatMap fun step => step.1.arrows aliases step.2
  closed : Closed nodes edges

/-- **Drawings of resolved pipelines are closed.**  Take any pipeline that a collection resolved, and
to which the counts of a stage may have been added.  Its tasks are all known, and the lines of its
drawing show the nodes and edges they have to, whatever the names are.  Where no name has a quote and
neither names nor types break a line, the same is read from the text. -/
theorem dot_closed (collection : TaskCollection) (request : StageRequest) (desired : PropertyList)
    {found pipeline : Pipeline}
    (hfound : collection.resolve request.stage desired request.aliases = .ok found)
    (hcounts : found.addCounts request = .ok pipeline) :
    let lines := pipeline.graph collection.resolver request.aliases
    let text := pipeline.dot collection.resolver request.aliases
    ∃ tasks, pipeline.items.map collection.task? = tasks.map some ∧
      pipeline.Draws tasks request.aliases (lines.filterMap GraphLine.node?)
        (lines.filterMap GraphLine.ends?) ∧
      ((∀ cls, ∀ p ∈ (pipeline.list cls).entries,
          Dot.Plain p.name ∧ '\n' ∉ p.type.shortName.toList) →
        pipeline.Draws tasks request.aliases (Dot.nodes text) (Dot.edges text)) := by
  intro lines text
  have hwidened := widened_addCounts hcounts
  obtain ⟨tasks, htasks⟩ : ∃ tasks, pipeline.tasks collection.resolver = .ok tasks := by
    refine exists_tasks fun key hkey => ?_
    obtain ⟨entry, -, -, -, htask⟩ :=
      TaskCollection.task?_of_mem_items hfound (hwidened.items ▸ hkey)
    exact ⟨entry.task, htask⟩
  have hitems := map_tasks htasks
  let plan : StagePlan := { request, pipeline, desired, tasks }
  have hresolved : plan.Resolved collection found := ⟨hfound, hwidened, hitems⟩
  have hlisted : ∀ task ∈ tasks, ∀ p ∈ task.lists.all,
      ∃ cls, request.aliases.choice p.name ∈ (pipeline.list cls).names := by
    intro task htask p hp
    obtain ⟨cls, hcls⟩ := hresolved.exists_class
      (List.mem_append_right _ (List.mem_flatMap.2 ⟨task, htask, hp⟩))
    exact ⟨cls, hwidened.names_subset cls hcls⟩
  have hdraws : pipeline.Draws tasks request.aliases (lines.filterMap GraphLine.node?)
      (lines.filterMap GraphLine.ends?) :=
    ⟨nodes_graph hitems, ends_graph hitems, closed_graph hitems hresolved.disjoint hlisted⟩
  refine ⟨tasks, hitems, hdraws, fun hplain => ?_⟩
  obtain ⟨hnodes, hedges⟩ := read_dot (plain_graph hitems hlisted hplain)
  rw [hnodes, hedges]
  exact hdraws

/-- Two tasks, one with a label of several lines; the first changes what the second reads. -/
def dyeing : TaskCollection :=
  (TaskCollection.empty.register
    (.snippet "stir();" { filters := .ofList [⟨"vat", .vec4⟩]
                          outputs := .ofList [⟨"dye", .vec4⟩] }) [.compute]).register
    (.call "dip" { consuming := .ofList [⟨"cloth", .vec4⟩]
                   inputs := .ofList [⟨"tint", .vec4⟩, ⟨"vat", .vec4⟩]
                   outputs := .ofList [⟨"color", .vec4⟩] }) [.compute]

/-- A drawing with edges of all kinds, an alias between the tasks, and a count that was added. -/
theorem dot_closed_dyeing :
    let request := StageRequest.compute (.ofList [("tint", "dye")])
      { counts := ⟨.property ⟨"n", .uint⟩, .fixed 1, .fixed 1⟩, group := ⟨32, 1, 1⟩ }
    let desired := PropertyList.ofList [⟨"color", .vec4⟩]
    ∃ found pipeline, dyeing.resolve request.stage desired request.aliases = .ok found ∧
      found.addCounts request = .ok pipeline ∧
      Dot.nodes (pipeline.dot dyeing.resolver request.aliases)
        = ["p_n", "p_cloth", "p_vat", "p_color", "p_dye", "t_0", "t_1"] ∧
      Dot.edges (pipeline.dot dyeing.resolver request.aliases)
        = [("p_vat", "t_0"), ("t_0", "p_dye"), ("p_dye", "t_1"), ("p_vat", "t_1"),
          ("p_cloth", "t_1"), ("t_1", "p_color")] ∧
      Closed (Dot.nodes (pipeline.dot dyeing.resolver request.aliases))
        (Dot.edges (pipeline.dot dyeing.resolver request.aliases)) := by
  intro request desired
  have htest : ((dyeing.resolve request.stage desired request.aliases).toOption.any fun found =>
      (found.addCounts request).toOption.any fun pipeline =>
        decide ((∀ cls ∈ PropertyClass.all, ∀ p ∈ (pipeline.list cls).entries,
            Dot.Plain p.name ∧ '\n' ∉ p.type.shortName.toList) ∧
          (pipeline.graph dyeing.resolver request.aliases).filterMap GraphLine.node?
            = ["p_n", "p_cloth", "p_vat", "p_color", "p_dye", "t_0", "t_1"] ∧
          (pipeline.graph dyeing.resolver request.aliases).filterMap GraphLine.ends?
            = [("p_vat", "t_0"), ("t_0", "p_dye"), ("p_dye", "t_1"), ("p_vat", "t_1"),
              ("p_cloth", "t_1"), ("t_1", "p_color")])) = true := by decide +kernel
  obtain ⟨found, hfound, htest⟩ := Outcome.exists_of_any htest
  obtain ⟨pipeline, hcounts, htest⟩ := Outcome.exists_of_any htest
  obtain ⟨hplain, hnodes, hedges⟩ := of_decide_eq_true htest
  obtain ⟨tasks, -, hlines, hread⟩ := dot_closed dyeing request desired hfound hcounts
  -- The text is never evaluated: what is read from it is what the lines say.
  have htext := hread fun cls => hplain cls cls.mem_all
  exact ⟨found, pipeline, hfound, hcounts, htext.declared.trans (hlines.declared ▸ hnodes),
    htext.drawn.trans (hlines.drawn ▸ hedges), htext.closed⟩

/-- **A name can declare a node of its own.**  Names are written as they are, and one that closes its
quotes and starts a new line makes a second node of another property. -/
theorem not_forall_dot_closed :
    let collection := TaskCollection.empty.register (.call "shade"
      { inputs := .ofList [⟨"x\" [label=\"\", shape=ellipse];\n\t\"p_y", .vec4⟩, ⟨"y", .vec4⟩]
        outputs := .ofList [⟨"color", .vec4⟩] }) [.fragment]
    ∃ pipeline, collection.resolve .fragment (.ofList [⟨"color", .vec4⟩]) .empty = .ok pipeline ∧
      ("p_y", "t_0") ∈ Dot.edges (pipeline.dot collection.resolver .empty) ∧
      (Dot.nodes (pipeline.dot collection.resolver .empty)).count "p_y" = 2 ∧
      ¬ Closed (Dot.nodes (pipeline.dot collection.resolver .empty))
        (Dot.edges (pipeline.dot collection.resolver .empty)) := by
  intro collection
  let name := "x\" [label=\"\", shape=ellipse];\n\t\"p_y"
  have htest : ((collection.resolve .fragment (.ofList [⟨"color", .vec4⟩]) .empty).toOption.any
      fun pipeline => decide (pipeline.graph collection.resolver .empty
        = [.property ⟨name, .vec4⟩ .input, .property ⟨"y", .vec4⟩ .input,
          .property ⟨"color", .vec4⟩ .output, .task 0 "shade", .edge 0 .reads name,
          .edge 0 .reads "y", .edge 0 .writes "color"])) = true := by
    decide +kernel
  obtain ⟨pipeline, hpipeline, htest⟩ := Outcome.exists_of_any htest
  have hlines := of_decide_eq_true htest
  have hedge : ("p_y", "t_0") ∈ Dot.edges (pipeline.dot collection.resolver .empty) := by
    rw [Dot.edges, toList_dot, hlines]
    decide +kernel
  have htwice : (Dot.nodes (pipeline.dot collection.resolver .empty)).count "p_y" = 2 := by
    rw [Dot.nodes, toList_dot, hlines]
    decide +kernel
  refine ⟨pipeline, hpipeline, hedge, htwice, ?_⟩
  intro hclosed
  have honce := (hclosed _ hedge).1
  rw [htwice] at honce
  exact absurd honce (by decide)

end Pipeline

end ShaderWeave
