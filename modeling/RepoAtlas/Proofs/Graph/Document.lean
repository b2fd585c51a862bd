import RepoAtlas.Graph.Document.Reader
import RepoAtlas.Graph.Document.Writer
import Mathlib.Data.List.Forall2
import Mathlib.Data.List.Nodup

/-!
# A graph is read back from its document

Writing leaves out what is not there, and reading fills in defaults and drops what is null. Field by
field these undo each other, so no two graphs have the same document: `Graph.document_roundTrip`.
-/

namespace RepoAtlas.Graph

open GraphDocument (Reader Field isNull withoutNulls fieldOf trimmed whole unlessBlank)

-- -------------------------------------
-- Values
-- -------------------------------------

/-- A value that is there once it is completed, and is then read as `a`. -/
def Restores (read : Reader) (decode : Decoder α) (v : Value) (a : α) : Prop :=
  ∃ done, read v = .ok done ∧ isNull done = false ∧ decode done = some a

theorem restores_text (t : Text) : Restores .ok asText (.text t) t := ⟨_, rfl, rfl, rfl⟩

theorem restores_int (n : Int) : Restores .ok asInt (.int n) n := ⟨_, rfl, rfl, rfl⟩

theorem restores_bool (b : Bool) : Restores .ok asBool (.bool b) b := ⟨_, rfl, rfl, rfl⟩

theorem restores_ratio (r : Ratio) : Restores .ok asRatio (.ofRatio r) r := by
  cases r <;> exact ⟨_, rfl, rfl, rfl⟩

theorem mapM_map_some {write : α → β} {decode : β → Option α} (h : ∀ a, decode (write a) = some a)
    (l : List α) : (l.map write).mapM decode = some l := by
  induction l with
  | nil => rfl
  | cons a l ih => simp [List.mapM_cons, h, ih]

theorem restores_texts (ts : List Text) :
    Restores GraphDocument.listOf (asList asText) (texts ts) ts := by
  have htext : ∀ t, asText (.text t) = some t := fun _ => rfl
  exact ⟨_, rfl, rfl, mapM_map_some htext ts⟩

/-- A list is restored where its items are. -/
theorem restores_each {read : Reader} {decode : Decoder α} {write : α → Value}
    (h : ∀ a, Restores read decode (write a) a) (l : List α) :
    Restores (GraphDocument.each read) (asList decode) (.list (l.map write)) l := by
  have hall : ∃ done, (l.map write).mapM read = .ok done ∧ done.mapM decode = some l := by
    induction l with
    | nil => exact ⟨[], rfl, rfl⟩
    | cons a l ih =>
      obtain ⟨first, hfirst, -, hdecode⟩ := h a
      obtain ⟨rest, hrest, hdecodes⟩ := ih
      refine ⟨first :: rest, ?_, ?_⟩
      · rw [List.map_cons, List.mapM_cons, hfirst, hrest]
        rfl
      · rw [List.mapM_cons, hdecode, hdecodes]
        rfl
  obtain ⟨done, hread, hdecode⟩ := hall
  refine ⟨.list done, ?_, rfl, hdecode⟩
  simp only [GraphDocument.each, Value.items?, hread]
  rfl

theorem tableOf_table (t : Table) : GraphDocument.tableOf (.table t) = .ok (.table t) := by
  simp [GraphDocument.tableOf, GraphDocument.entriesOf, GraphDocument.keyText?, Except.map,
    Function.comp_def]

theorem asMap_map {write : α → Value} {decode : Decoder α} (h : ∀ a, decode (write a) = some a)
    (entries : List (Text × α)) :
    asMap decode (.table (entries.map fun (key, a) => (key, write a))) = some entries :=
  mapM_map_some (fun entry => by simp [h]) entries

theorem restores_counts (entries : List (Text × Int)) :
    Restores GraphDocument.tableOf (asMap asInt) (counts entries) entries := by
  have hint : ∀ n, asInt (.int n) = some n := fun _ => rfl
  exact ⟨_, tableOf_table _, rfl, asMap_map hint entries⟩

-- -------------------------------------
-- Tables with gaps
-- -------------------------------------

/-- A completed value as it stands in a table without nulls. -/
def present (v : Value) : Option Value := if isNull v then none else some v

/-- The entries that have a value. -/
def sparse (entries : List (Text × Option Value)) : Table :=
  entries.filterMap fun (key, v) => v.map fun v => (key, v)

theorem fields_eq (entries : List (String × Option Value)) :
    fields entries = .table (sparse (entries.map fun entry => (entry.1.toList, entry.2))) := by
  rw [sparse, List.filterMap_map]
  rfl

theorem withoutNulls_eq (t : Table) :
    withoutNulls t = sparse (t.map fun entry => (entry.1, present entry.2)) := by
  induction t with
  | nil => rfl
  | cons entry t ih =>
    cases hnull : isNull entry.2 <;> simp_all [withoutNulls, sparse, present]

theorem get?_sparse_of_not_mem {entries : List (Text × Option Value)}
    (h : key ∉ entries.map (·.1)) : (sparse entries).get? key = none := by
  rw [Table.get?, List.lookup_eq_none_iff]
  intro found hfound
  obtain ⟨entry, hentry, hvalue⟩ := List.mem_filterMap.mp hfound
  obtain ⟨v, -, rfl⟩ := Option.map_eq_some_iff.mp hvalue
  rw [bne_iff_ne]
  rintro rfl
  exact h (List.mem_map_of_mem hentry)

/-- With different keys each one has the value of its entry, if there is any. -/
theorem get?_sparse {entries : List (Text × Option Value)} (hkeys : (entries.map (·.1)).Nodup)
    (hmem : (key, v) ∈ entries) : (sparse entries).get? key = v := by
  induction entries with
  | nil => cases hmem
  | cons entry entries ih =>
    obtain ⟨other, w⟩ := entry
    obtain ⟨hfresh, hrest⟩ := List.nodup_cons.mp hkeys
    rcases List.mem_cons.mp hmem with hhead | htail
    · cases hhead
      cases v with
      | none =>
        have hnone : (sparse entries).get? key = none := get?_sparse_of_not_mem hfresh
        exact hnone
      | some v => exact List.lookup_cons_self
    · have hne : key ≠ other := by
        rintro rfl
        exact hfresh (List.mem_map.mpr ⟨_, htail, rfl⟩)
      rw [← ih hrest htail]
      cases w with
      | none => rfl
      | some w => simp [sparse, Table.get?, List.lookup_cons, beq_eq_false_iff_ne.mpr hne]

theorem nodup_toList {keys : List String} (h : keys.Nodup) : (keys.map String.toList).Nodup :=
  h.map fun _ _ => String.toList_inj.mp

theorem fieldOf_fields {entries : List (String × Option Value)}
    (hkeys : (entries.map (·.1)).Nodup) (hmem : (key, v) ∈ entries) :
    fieldOf (fields entries) key.toList = v := by
  rw [fields_eq]
  refine get?_sparse ?_ (List.mem_map_of_mem hmem)
  simpa [Function.comp_def] using nodup_toList hkeys

-- -------------------------------------
-- Fields
-- -------------------------------------

/-- A field of a record with what is written for it and what it is read as, so that the one gives
the other. -/
structure Slot where
  key : String
  default : Option Value
  read : Reader
  written : Option Value
  {β : Type}
  look : Option Value → Option β
  back : β
  kept : ∃ v done, written.or default = some v ∧ read v = .ok done ∧ look (present done) = some back

namespace Slot

def shape (s : Slot) : Field := ⟨s.key.toList, s.default, s.read⟩

def entry (s : Slot) : String × Option Value := (s.key, s.written)

/-- A field that is always written. -/
def always (key : String) (default : Option Value) {read : Reader} {decode : Decoder α}
    (h : Restores read decode v a) : Slot where
  key := key
  default := default
  read := read
  written := some v
  look := (·.bind decode)
  back := a
  kept := by
    obtain ⟨done, hread, hnull, hdecode⟩ := h
    exact ⟨v, done, rfl, hread, by simp [present, hnull, hdecode]⟩

/-- A field that is written where there is something. -/
def sometimes (key : String) (read : Reader) {decode : Decoder α} {write : α → Value}
    (hnull : read .null = .ok .null) (found : Option α)
    (h : ∀ a, found = some a → Restores read decode (write a) a) : Slot where
  key := key
  default := some .null
  read := read
  written := found.map write
  look
    | none => some none
    | some v => (decode v).map some
  back := found
  kept := by
    cases found with
    | none => exact ⟨.null, .null, rfl, hnull, rfl⟩
    | some a =>
      obtain ⟨done, hread, hthere, hdecode⟩ := h a rfl
      exact ⟨write a, done, rfl, hread, by simp [present, hthere, hdecode]⟩

/-- A value has the fields of a record as they were written. -/
def Reads (v : Value) (slots : List Slot) : Prop :=
  ∀ s ∈ slots, s.look (fieldOf v s.key.toList) = some s.back

theorem reads_always_cons {name : String} {read : Reader} {decode : Decoder α}
    {h : Restores read decode w a} : Reads v (always name fallback h :: slots) ↔
      needed v name decode = some a ∧ Reads v slots := by
  rw [Reads, List.forall_mem_cons]
  rfl

theorem reads_sometimes_cons {name : String} {read : Reader} {decode : Decoder α}
    {write : α → Value} {hnull : read .null = .ok .null}
    {h : ∀ a, found = some a → Restores read decode (write a) a} :
    Reads v (sometimes name read hnull found h :: slots) ↔
      possible v name decode = some found ∧ Reads v slots := by
  rw [Reads, List.forall_mem_cons]
  rfl

end Slot

-- -------------------------------------
-- Records
-- -------------------------------------

/-- An entry of a completed table, for a field. -/
def Slot.Holds (s : Slot) (entry : Text × Value) : Prop :=
  entry.1 = s.key.toList ∧ s.look (present entry.2) = some s.back

theorem mapM_take {slots : List Slot} {t : Table}
    (h : ∀ s ∈ slots, fieldOf (.table t) s.key.toList = s.written) :
    ∃ done, (slots.map Slot.shape).mapM (Field.take t) = .ok done ∧
      List.Forall₂ Slot.Holds slots done := by
  induction slots with
  | nil => exact ⟨[], rfl, .nil⟩
  | cons s slots ih =>
    obtain ⟨hs, hslots⟩ := List.forall_mem_cons.mp h
    obtain ⟨rest, hrest, hholds⟩ := ih hslots
    obtain ⟨v, done, hwritten, hread, hlook⟩ := s.kept
    have htake : s.shape.take t = .ok (s.key.toList, done) := by
      simp only [fieldOf] at hs
      simp only [Field.take, Slot.shape, hs, hwritten, hread]
      rfl
    refine ⟨(s.key.toList, done) :: rest, ?_, .cons ⟨rfl, hlook⟩ hholds⟩
    rw [List.map_cons, List.mapM_cons, htake, hrest]
    rfl

theorem keys_eq {slots : List Slot} (h : List.Forall₂ Slot.Holds slots done) :
    done.map (·.1) = (slots.map (·.key)).map String.toList := by
  induction h with
  | nil => rfl
  | cons hentry _ ih => rw [List.map_cons, List.map_cons, List.map_cons, hentry.1, ih]

theorem exists_holds {slots : List Slot} (h : List.Forall₂ Slot.Holds slots done)
    (hs : s ∈ slots) : ∃ v, (s.key.toList, v) ∈ done ∧ s.look (present v) = some s.back := by
  induction h with
  | nil => cases hs
  | @cons _ entry _ _ hentry _ ih =>
    rcases List.mem_cons.mp hs with rfl | hs
    · refine ⟨entry.2, ?_, hentry.2⟩
      rw [← hentry.1]
      exact List.mem_cons_self
    · obtain ⟨v, hmem, hlook⟩ := ih hs
      exact ⟨v, List.mem_cons_of_mem _ hmem, hlook⟩

theorem withoutNulls_eq_self {slots : List Slot} (h : List.Forall₂ Slot.Holds slots done)
    (hthere : ∀ s ∈ slots, s.look none = none) : withoutNulls done = done := by
  induction h with
  | nil => rfl
  | @cons s entry slots done hentry _ ih =>
    obtain ⟨hs, hslots⟩ := List.forall_mem_cons.mp hthere
    have hnull : isNull entry.2 = false := by
      have hlook := hentry.2
      unfold present at hlook
      split at hlook
      · rw [hs] at hlook
        cases hlook
      · rename_i hnull
        exact eq_false_of_ne_true hnull
    rw [withoutNulls, List.filter_cons_of_pos (by simp [hnull]), ← withoutNulls, ih hslots]

section
variable {slots : List Slot} {entries : List (String × Option Value)}

/-- A record that is written as it is read. Where none of its fields may be missing, none of the
values is null. -/
theorem record_slots (other : DocumentError) (hkeys : (slots.map (·.key)).Nodup)
    (hentries : entries.Perm (slots.map Slot.entry)) :
    ∃ done, GraphDocument.record other (slots.map Slot.shape) (fields entries) = .ok done ∧
      Slot.Reads (.table (withoutNulls done)) slots ∧
      ((∀ s ∈ slots, s.look none = none) → withoutNulls done = done) := by
  have hnodup : (entries.map (·.1)).Nodup := by
    rw [(hentries.map _).nodup_iff, List.map_map]
    exact hkeys
  have hwritten : ∀ s ∈ slots, fieldOf (fields entries) s.key.toList = s.written := fun s hs =>
    fieldOf_fields hnodup (hentries.mem_iff.mpr (List.mem_map_of_mem hs))
  rw [fields_eq] at hwritten ⊢
  obtain ⟨done, hdone, hholds⟩ := mapM_take hwritten
  refine ⟨done, hdone, ?_, withoutNulls_eq_self hholds⟩
  intro s hs
  obtain ⟨v, hmem, hlook⟩ := exists_holds hholds hs
  rw [← hlook, withoutNulls_eq]
  refine congrArg s.look (get?_sparse ?_ (List.mem_map_of_mem hmem))
  rw [List.map_map]
  show (done.map (·.1)).Nodup
  rw [keys_eq hholds]
  exact nodup_toList hkeys

theorem restores_trimmed (slots : List Slot) {other : DocumentError} {decode : Decoder α}
    (hkeys : (slots.map (·.key)).Nodup) (hentries : entries.Perm (slots.map Slot.entry))
    (hdecode : ∀ v, Slot.Reads v slots → decode v = some a) :
    Restores (trimmed other (slots.map Slot.shape)) decode (fields entries) a := by
  obtain ⟨done, hdone, hreads, -⟩ := record_slots other hkeys hentries
  refine ⟨.table (withoutNulls done), ?_, rfl, hdecode _ hreads⟩
  rw [trimmed, hdone]
  rfl

theorem restores_whole (slots : List Slot) {decode : Decoder α}
    (hkeys : (slots.map (·.key)).Nodup) (hentries : entries.Perm (slots.map Slot.entry))
    (hthere : ∀ s ∈ slots, s.look none = none)
    (hdecode : ∀ v, Slot.Reads v slots → decode v = some a) :
    Restores (whole (slots.map Slot.shape)) decode (fields entries) a := by
  obtain ⟨done, hdone, hreads, hfull⟩ := record_slots .noKeys hkeys hentries
  rw [hfull hthere] at hreads
  refine ⟨.table done, ?_, rfl, hdecode _ hreads⟩
  rw [whole, hdone]
  rfl

end

-- -------------------------------------
-- The parts of a graph
-- -------------------------------------

open Slot (always sometimes reads_always_cons reads_sometimes_cons)

def metricsSlots (m : Metrics) : List Slot := [
  always "linesOfCode" none (restores_int m.lines),
  always "cyclomaticComplexity" none (restores_int m.complexity),
  always "commentRatio" none (restores_ratio m.commentRatio)]

theorem restores_metrics (m : Metrics) :
    Restores GraphDocument.metrics asMetrics (ofMetrics m) m := by
  refine restores_whole (metricsSlots m) ?_ (.refl _) ?_ ?_
  · simp [metricsSlots, always]
  · simp [metricsSlots, always]
  · intro v hv
    simp only [metricsSlots, reads_always_cons] at hv
    simp [asMetrics, hv]

def layerSlots (l : LayerGuess) : List Slot := [
  always "layer" none (restores_text l.layer),
  always "confidence" none (restores_ratio l.confidence)]

theorem restores_layer (l : LayerGuess) : Restores GraphDocument.layer asLayer (ofLayer l) l := by
  refine restores_whole (layerSlots l) ?_ (.refl _) ?_ ?_
  · simp [layerSlots, always]
  · simp [layerSlots, always]
  · intro v hv
    simp only [layerSlots, reads_always_cons] at hv
    simp [asLayer, hv]

def riskSlots (r : RiskDetail) : List Slot := [
  always "level" none (restores_text r.level), always "score" none (restores_int r.score),
  always "factors" none (restores_texts r.factors)]

theorem restores_risk (r : RiskDetail) : Restores GraphDocument.risk asRisk (ofRisk r) r := by
  refine restores_whole (riskSlots r) ?_ (.refl _) ?_ ?_
  · simp [riskSlots, always]
  · simp [riskSlots, always]
  · intro v hv
    simp only [riskSlots, reads_always_cons] at hv
    simp [asRisk, hv]

theorem unlessBlank_null (read : Reader) : unlessBlank read .null = .ok .null := rfl

theorem restores_unlessBlank {read : Reader} {decode : Decoder α} (hblank : v.isBlank = false)
    (h : Restores read decode v a) : Restores (unlessBlank read) decode v a := by
  unfold Restores unlessBlank
  rw [hblank]
  exact h

def nodeSlots (n : Node) : List Slot := [
  always "id" none (restores_text n.id), always "label" none (restores_text n.label),
  always "type" none (restores_text n.kind), always "path" none (restores_text n.path),
  always "riskLevel" (some (.text "low".toList)) (restores_text n.riskLevel),
  always "fanIn" (some (.int 0)) (restores_int n.fanIn),
  always "fanOut" (some (.int 0)) (restores_int n.fanOut),
  sometimes "moduleRole" .ok rfl n.role fun role _ => restores_text role,
  always "inCycle" (some (.bool false)) (restores_bool n.inCycle),
  sometimes "metrics" (unlessBlank GraphDocument.metrics) (unlessBlank_null _) n.metrics
    fun m _ => restores_unlessBlank rfl (restores_metrics m),
  sometimes "layerClassification" (unlessBlank GraphDocument.layer) (unlessBlank_null _) n.layer
    fun l _ => restores_unlessBlank rfl (restores_layer l),
  sometimes "riskDetail" (unlessBlank GraphDocument.risk) (unlessBlank_null _) n.risk
    fun r _ => restores_unlessBlank rfl (restores_risk r)]

theorem restores_node (n : Node) : Restores GraphDocument.node asNode (ofNode n) n := by
  refine restores_trimmed (nodeSlots n) ?_ (.refl _) ?_
  · simp [nodeSlots, always, sometimes]
  · intro v hv
    simp only [nodeSlots, reads_always_cons, reads_sometimes_cons] at hv
    simp [asNode, hv]

def edgeSlots (e : Edge) : List Slot := [
  always "id" none (restores_text e.id), always "source" none (restores_text e.source),
  always "target" none (restores_text e.target),
  always "type" (some (.text "static".toList)) (restores_text e.kind),
  sometimes "label" .ok rfl e.label fun label _ => restores_text label,
  always "imports" (some (.list [])) (restores_texts e.names)]

theorem restores_edge (e : Edge) : Restores GraphDocument.edge asEdge (ofEdge e) e := by
  refine restores_trimmed (edgeSlots e) ?_ (.refl _) ?_
  · simp [edgeSlots, always, sometimes]
  · intro v hv
    simp only [edgeSlots, reads_always_cons, reads_sometimes_cons] at hv
    simp [asEdge, hv]

def frameworkVersionSlots (f : FrameworkVersion) : List Slot := [
  always "name" none (restores_text f.name),
  sometimes "version" .ok rfl f.version fun version _ => restores_text version]

theorem restores_frameworkVersion (f : FrameworkVersion) :
    Restores GraphDocument.frameworkVersion asFrameworkVersion (ofFrameworkVersion f) f := by
  refine restores_trimmed (frameworkVersionSlots f) ?_ (.refl _) ?_
  · simp [frameworkVersionSlots, always, sometimes]
  · intro v hv
    simp only [frameworkVersionSlots, reads_always_cons, reads_sometimes_cons] at hv
    simp [asFrameworkVersion, hv]

def architectureSlots (a : Architecture) : List Slot := [
  always "name" none (restores_text a.name), always "confidence" none (restores_text a.confidence),
  sometimes "hint" .ok rfl a.hint fun hint _ => restores_text hint]

theorem restores_architecture (a : Architecture) :
    Restores GraphDocument.architecture asArchitecture (ofArchitecture a) a := by
  refine restores_trimmed (architectureSlots a) ?_ (.refl _) ?_
  · simp [architectureSlots, always, sometimes]
  · intro v hv
    simp only [architectureSlots, reads_always_cons, reads_sometimes_cons] at hv
    simp [asArchitecture, hv]

def insightSlots (i : Insight) : List Slot := [
  always "type" none (restores_text i.kind), always "filePath" none (restores_text i.file),
  always "severity" none (restores_text i.severity),
  always "message" none (restores_text i.message),
  sometimes "line" .ok rfl i.line fun line _ => restores_int line]

theorem restores_insight (i : Insight) :
    Restores GraphDocument.insight asInsight (ofInsight i) i := by
  -- The line is written before severity and message, and read after them.
  refine restores_trimmed (insightSlots i) ?_ ?_ ?_
  · simp [insightSlots, always, sometimes]
  · exact .cons _ (.cons _ (.trans (.swap _ _ _) (.cons _ (.swap _ _ _))))
  · intro v hv
    simp only [insightSlots, reads_always_cons, reads_sometimes_cons] at hv
    simp [asInsight, hv]

def cycleSlots (c : Cycle) : List Slot := [
  always "ids" none (restores_texts c.ids), always "pathLabels" none (restores_texts c.paths)]

theorem restores_cycle (c : Cycle) : Restores GraphDocument.cycle asCycle (ofCycle c) c := by
  refine restores_whole (cycleSlots c) ?_ (.refl _) ?_ ?_
  · simp [cycleSlots, always]
  · simp [cycleSlots, always]
  · intro v hv
    simp only [cycleSlots, reads_always_cons] at hv
    simp [asCycle, hv]

/-- The versions of runtimes, if there are any. -/
def anyRuntimes (runtimes : List (Text × Text)) : Option (List (Text × Text)) :=
  if runtimes.isEmpty then none else some runtimes

theorem ofRuntimes_eq (runtimes : List (Text × Text)) :
    ofRuntimes runtimes = (anyRuntimes runtimes).map fun known =>
      .table (known.map fun entry => (entry.1, .text entry.2)) := by
  cases runtimes <;> rfl

theorem anyRuntimes_getD (runtimes : List (Text × Text)) :
    (anyRuntimes runtimes).getD [] = runtimes := by
  cases runtimes <;> rfl

def readRuntimes : Reader := fun v =>
  if v.isBlank then .ok .null
  else (GraphDocument.tableOf v).map fun t => if t.isBlank then .null else t

theorem readRuntimes_null : readRuntimes .null = .ok .null := rfl

theorem restores_runtimes (h : anyRuntimes runtimes = some known) :
    Restores readRuntimes (asMap asText)
      (.table (known.map fun entry => (entry.1, .text entry.2))) known := by
  have htext : ∀ t, asText (.text t) = some t := fun _ => rfl
  refine ⟨_, ?_, rfl, asMap_map htext known⟩
  cases runtimes with
  | nil => cases h
  | cons first rest =>
    cases h
    simp only [readRuntimes, tableOf_table]
    rfl

def statsSlots (s : Stats) : List Slot := [
  always "languages" (some (.table [])) (restores_counts s.languages),
  sometimes "languageVersions" readRuntimes readRuntimes_null (anyRuntimes s.runtimes)
    fun _ => restores_runtimes,
  always "frameworks" (some (.list [])) (restores_texts s.frameworks),
  always "frameworkVersions" (some (.list []))
    (restores_each restores_frameworkVersion s.frameworkVersions),
  always "entryPoints" (some (.list [])) (restores_texts s.entryPoints),
  always "totalFiles" (some (.int 0)) (restores_int s.totalFiles),
  sometimes "primaryLanguage" .ok rfl s.primaryLanguage fun name _ => restores_text name,
  always "architecturalPatterns" (some (.list []))
    (restores_each restores_architecture s.architectures),
  always "truncated" (some (.bool false)) (restores_bool s.truncated)]

theorem ofStats_eq (s : Stats) : ofStats s = fields ((statsSlots s).map Slot.entry) := by
  rw [ofStats, ofRuntimes_eq]
  rfl

theorem restores_stats (s : Stats) : Restores GraphDocument.stats asStats (ofStats s) s := by
  rw [ofStats_eq]
  refine restores_trimmed (statsSlots s) ?_ (.refl _) ?_
  · simp [statsSlots, always, sometimes]
  · intro v hv
    simp only [statsSlots, reads_always_cons, reads_sometimes_cons] at hv
    simp [asStats, hv, anyRuntimes_getD]

/-- Statistics that may be left out altogether. -/
def readStats : Reader := fun v => GraphDocument.stats (if v.isBlank then .table [] else v)

theorem restores_readStats (s : Stats) : Restores readStats asStats (ofStats s) s := by
  have hblank : (ofStats s).isBlank = false := rfl
  unfold Restores readStats
  rw [hblank]
  exact restores_stats s

def graphSlots (g : Graph) : List Slot := [
  always "stats" (some .null) (restores_readStats g.stats),
  always "nodes" (some (.list [])) (restores_each restores_node g.nodes),
  always "edges" (some (.list [])) (restores_each restores_edge g.edges),
  always "circularDependencies" (some (.list [])) (restores_each restores_cycle g.cycles),
  always "highFanInIds" (some (.list [])) (restores_texts g.mostImported),
  always "highFanOutIds" (some (.list [])) (restores_texts g.mostImporting),
  always "securityInsights" (some (.list [])) (restores_each restores_insight g.insights),
  always "layerBreakdown" (some (.table [])) (restores_counts g.layers),
  always "codeQualityScore" (some (.int 100)) (restores_int g.quality)]

theorem filled_toDocument (g : Graph) :
    ∃ t, GraphDocument.filled (toDocument g) = .ok t ∧ asGraph (.table t) = some g := by
  have hkeys : ((graphSlots g).map (·.key)).Nodup := by simp [graphSlots, always]
  have hthere : ∀ s ∈ graphSlots g, s.look none = none := by simp [graphSlots, always]
  -- The statistics are written after nodes and edges, and read before them.
  obtain ⟨t, ht, hreads, hfull⟩ := record_slots .notATable hkeys
    (.trans (.cons _ (.swap _ _ _)) (.swap _ _ _))
  rw [hfull hthere] at hreads
  refine ⟨t, ht, ?_⟩
  simp only [graphSlots, reads_always_cons] at hreads
  simp [asGraph, hreads]

-- -------------------------------------
-- Documents
-- -------------------------------------

/-- The keys of a table are in order. -/
theorem isOrderedAt_of_table {key : String}
    (h : ∀ w, fieldOf v key.toList = some w → ∃ t, w = .table t) :
    GraphDocument.isOrderedAt key v = true := by
  cases v with
  | table entries =>
    simp only [fieldOf] at h
    cases hfound : Table.get? entries key.toList with
    | none => simp [GraphDocument.isOrderedAt, hfound]
    | some w =>
      obtain ⟨t, rfl⟩ := h w hfound
      simp [GraphDocument.isOrderedAt, hfound, GraphDocument.entriesOf, GraphDocument.areOrdered,
        GraphDocument.isText, Function.comp_def]
  | _ => rfl

theorem isOrdered_toDocument (g : Graph) : GraphDocument.isOrdered (toDocument g) = true := by
  have hstats : fieldOf (toDocument g) "stats".toList = some (ofStats g.stats) :=
    fieldOf_fields (by simp) (by simp)
  have hlayers : fieldOf (toDocument g) "layerBreakdown".toList = some (counts g.layers) :=
    fieldOf_fields (by simp) (by simp)
  have hlanguages : fieldOf (ofStats g.stats) "languages".toList =
      some (counts g.stats.languages) := fieldOf_fields (by simp) (by simp)
  have hruntimes : fieldOf (ofStats g.stats) "languageVersions".toList =
      ofRuntimes g.stats.runtimes := fieldOf_fields (by simp) (by simp)
  simp only [GraphDocument.isOrdered, hstats, Option.getD_some, Bool.and_eq_true]
  refine ⟨⟨isOrderedAt_of_table ?_, isOrderedAt_of_table ?_⟩, isOrderedAt_of_table ?_⟩
  · rw [hlanguages]
    rintro _ ⟨⟩
    exact ⟨_, rfl⟩
  · rw [hruntimes, ofRuntimes_eq]
    intro w hw
    obtain ⟨known, -, rfl⟩ := Option.map_eq_some_iff.mp hw
    exact ⟨_, rfl⟩
  · rw [hlayers]
    rintro _ ⟨⟩
    exact ⟨_, rfl⟩

/-- A graph is what its document is read as. -/
theorem ofDocument_toDocument (g : Graph) : ofDocument (toDocument g) = .ok g := by
  obtain ⟨t, ht, hg⟩ := filled_toDocument g
  have hcomplete : GraphDocument.complete (toDocument g) = .ok t := by
    simp only [GraphDocument.complete, ht, isOrdered_toDocument]
    rfl
  simp only [ofDocument, hcomplete, bind, Except.bind, hg]

/-- Nothing is lost in a document: every graph is read back, so no two graphs are written alike. -/
theorem document_roundTrip :
    (∀ g, ofDocument (toDocument g) = .ok g) ∧ Function.Injective toDocument := by
  refine ⟨ofDocument_toDocument, fun g other hsame => ?_⟩
  have hread := ofDocument_toDocument g
  rw [hsame, ofDocument_toDocument] at hread
  exact (Except.ok.inj hread).symm

end RepoAtlas.Graph
