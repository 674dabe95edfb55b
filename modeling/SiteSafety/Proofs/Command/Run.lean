import SiteSafety.Command.Run
import SiteSafety.Proofs.Certification.Cycle
import SiteSafety.Proofs.Gauges.Exposition
import SiteSafety.Proofs.Text

namespace SiteSafety.Command

open Gauges (GateKeysDiffer sharedHashes conservationGate stabilityGate gateLine sampleLines)

def Options.applied (o : Options) (s : Settings) : Settings :=
  { s with windowSeconds := o.windowSeconds.getD s.windowSeconds }

section Stages

variable (files : Files) (o : Options)

inductive SettingsRefused : Error → Prop
  | unread {path : String} {e : ReadError} (hpath : o.config = some path)
      (hread : files.read path = .error e) : SettingsRefused (.readingSettings path e.cause)
  | notText {path : String} {bytes : List UInt8} {offset : ℕ} (hpath : o.config = some path)
      (hread : files.read path = .ok bytes) (htext : Text.decode bytes = .error offset) :
      SettingsRefused (.readingSettings path ⟨"stream did not contain valid UTF-8"⟩)
  | notSettings {path : String} {bytes : List UInt8} {document : String} {e : Json.Refusal}
      (hpath : o.config = some path) (hread : files.read path = .ok bytes)
      (htext : Text.decode bytes = .ok document) (hsettings : Settings.read document = .error e) :
      SettingsRefused (.parsingSettings path e)

inductive SettingsGiven : Settings → Prop
  | standard (hpath : o.config = none) : SettingsGiven (o.applied .standard)
  | file {path : String} {bytes : List UInt8} {document : String} {s : Settings}
      (hpath : o.config = some path) (hread : files.read path = .ok bytes)
      (htext : Text.decode bytes = .ok document) (hsettings : Settings.read document = .ok s) :
      SettingsGiven (o.applied s)

inductive NodesRefused : LoadError → Prop
  | unread {e : ReadError} (hread : files.read o.nodes = .error e) : NodesRefused e.toLoadError
  | notRows {bytes : List UInt8} {e : LoadError} (hread : files.read o.nodes = .ok bytes)
      (hload : NodeTable.load bytes = .error e) : NodesRefused e

inductive NodesGiven : NodeTable.Loaded → Prop
  | table {bytes : List UInt8} {loaded : NodeTable.Loaded} (hread : files.read o.nodes = .ok bytes)
      (hload : NodeTable.load bytes = .ok loaded) : NodesGiven loaded

/-- The error of the first stage that fails. Nothing is asked of the stages behind it. -/
inductive Stops : Error → Prop
  | settings {e : Error} (h : SettingsRefused files o e) : Stops e
  | nodes {s : Settings} {e : LoadError} (hs : SettingsGiven files o s)
      (h : NodesRefused files o e) : Stops (.loadingNodes o.nodes e)
  | cycle {s : Settings} {loaded : NodeTable.Loaded} {e : CertificationError}
      (hs : SettingsGiven files o s) (hn : NodesGiven files o loaded)
      (h : Certification.ofRows loaded.rows s = .error e) : Stops (.certifying e)

structure Passes (s : Settings) (loaded : NodeTable.Loaded) (c : Certification) : Prop where
  settings : SettingsGiven files o s
  nodes : NodesGiven files o loaded
  cycle : Certification.ofRows loaded.rows s = .ok c

end Stages

variable {files : Files} {o : Options} {s : Settings} {loaded : NodeTable.Loaded}
  {c : Certification}

theorem loadSettings_of_refused {e : Error} (h : SettingsRefused files o e) :
    loadSettings files o = .error e := by
  cases h with
  | unread hpath hread =>
      simp only [loadSettings, hpath, hread]
      rfl
  | notText hpath hread htext =>
      simp only [loadSettings, hpath, hread, mapError_ok, ok_bind, htext]
      rfl
  | notSettings hpath hread htext hsettings =>
      simp only [loadSettings, hpath, hread, mapError_ok, ok_bind, htext, hsettings]
      rfl

theorem loadSettings_of_given (h : SettingsGiven files o s) : loadSettings files o = .ok s := by
  cases h with
  | standard hpath =>
      simp only [loadSettings, hpath]
      rfl
  | file hpath hread htext hsettings =>
      simp only [loadSettings, hpath, hread, mapError_ok, ok_bind, htext, hsettings]
      rfl

theorem settings_refused_or_given (files : Files) (o : Options) :
    (∃ e, SettingsRefused files o e) ∨ ∃ s, SettingsGiven files o s := by
  cases hpath : o.config with
  | none => exact .inr ⟨_, .standard hpath⟩
  | some path =>
  cases hread : files.read path with
  | error e => exact .inl ⟨_, .unread hpath hread⟩
  | ok bytes =>
  cases htext : Text.decode bytes with
  | error offset => exact .inl ⟨_, .notText hpath hread htext⟩
  | ok document =>
  cases hsettings : Settings.read document with
  | error e => exact .inl ⟨_, .notSettings hpath hread htext hsettings⟩
  | ok s => exact .inr ⟨_, .file hpath hread htext hsettings⟩

theorem nodes_refused_or_given (files : Files) (o : Options) :
    (∃ e, NodesRefused files o e) ∨ ∃ loaded, NodesGiven files o loaded := by
  cases hread : files.read o.nodes with
  | error e => exact .inl ⟨_, .unread hread⟩
  | ok bytes =>
  cases hload : NodeTable.load bytes with
  | error e => exact .inl ⟨_, .notRows hread hload⟩
  | ok loaded => exact .inr ⟨_, .table hread hload⟩

theorem stops_or_passes (files : Files) (o : Options) :
    (∃ e, Stops files o e) ∨ ∃ s loaded c, Passes files o s loaded c := by
  obtain ⟨e, he⟩ | ⟨s, hs⟩ := settings_refused_or_given files o
  · exact .inl ⟨_, .settings he⟩
  obtain ⟨e, he⟩ | ⟨loaded, hn⟩ := nodes_refused_or_given files o
  · exact .inl ⟨_, .nodes hs he⟩
  cases hcycle : Certification.ofRows loaded.rows s with
  | error e => exact .inl ⟨_, .cycle hs hn hcycle⟩
  | ok c => exact .inr ⟨s, loaded, c, hs, hn, hcycle⟩

structure Silent (r : Result) (e : Error) : Prop where
  error : r.error = some e
  exitCode : r.exitCode = 1
  output : r.output = ""
  report : r.report = none

theorem silent_stopped (events : List Event) (e : Error) : Silent (stopped events e) e :=
  ⟨rfl, rfl, rfl, rfl⟩

theorem silent_of_stops {e : Error} (h : Stops files o e) (stamp : Stamp) :
    Silent (run files stamp o) e := by
  cases h with
  | settings h =>
      simp only [run, loadSettings_of_refused h]
      exact silent_stopped _ _
  | nodes hs h =>
      cases h with
      | unread hread =>
          simp only [run, loadSettings_of_given hs, hread]
          exact silent_stopped _ _
      | notRows hread hload =>
          simp only [run, loadSettings_of_given hs, hread, hload]
          exact silent_stopped _ _
  | cycle hs hn h =>
      cases hn with
      | table hread hload =>
          simp only [run, loadSettings_of_given hs, hread, hload, runLoaded, h]
          exact silent_stopped _ _

def entry (s : Settings) (r : Measurement) : String :=
  let kn := (Impact.ofRow s.hazardWeights s.windowSeconds r).kn
  r.nodeId ++ "," ++ r.contaminant ++ ",Kn=" ++ Decimal.plain kn ++ ",Kn_sigma=" ++
    Decimal.plain (knUncertainty kn) ++ "\n"

def account (siteId : String) (s : Settings) (rows : List Measurement) : String :=
  heading siteId ++ String.join (rows.map (entry s)) ++ stateLine (Accumulated.zero.run rows)

def Writable (files : Files) (o : Options) : Prop :=
  ∀ path, o.report = some path → files.writeError? path = none

/-- The whole cycle is published, certified or not. -/
structure Published (stamp : Stamp) (o : Options) (s : Settings) (loaded : NodeTable.Loaded)
    (c : Certification) (r : Result) : Prop where
  error : r.error = none
  exitCode : r.exitCode = 0
  report : r.report = o.report.map fun path =>
    (path, (Report.ofCertification stamp o.siteId s.windowSeconds loaded.skipped c).text)
  output : r.output = account o.siteId s loaded.rows ++
    if o.metrics then (gauges o.siteId c).exposition else ""
  gates : Series.key [o.siteId] ∉ sharedHashes →
    sampleLines .gatePass (gauges o.siteId c).exposition =
      [ gateLine o.siteId conservationGate c.conservation.passed,
        gateLine o.siteId stabilityGate c.stability.passed ]
  merged_gates : Series.key [o.siteId] ∈ sharedHashes →
    sampleLines .gatePass (gauges o.siteId c).exposition =
      [gateLine o.siteId conservationGate c.stability.passed]

structure Unreported (o : Options) (s : Settings) (loaded : NodeTable.Loaded) (path : String)
    (cause : FileError) (r : Result) : Prop where
  error : r.error = some (.writingReport path cause)
  exitCode : r.exitCode = 1
  report : r.report = none
  output : r.output = account o.siteId s loaded.rows

theorem summary_eq {rows : List Measurement} (h : Certification.ofRows rows s = .ok c)
    (siteId : String) : summary siteId c = account siteId s rows := by
  obtain ⟨-, -, rfl⟩ := Certification.ofRows_eq_ok.mp h
  have hentries : impactLine ∘ Impact.ofRow s.hazardWeights s.windowSeconds = entry s := rfl
  rw [summary, account, Certification.computed, List.map_map, hentries]

theorem sampleLines_gauges (siteId : String) (c : Certification) :
    sampleLines .gatePass (gauges siteId c).exposition =
      if GateKeysDiffer siteId then
        [ gateLine siteId conservationGate c.conservation.passed,
          gateLine siteId stabilityGate c.stability.passed ]
      else [gateLine siteId conservationGate c.stability.passed] := by
  have hnone : ((Gauges.empty.withImpacts c.impacts).withState siteId c.state).gatePass = [] :=
    Gauges.gatePass_withImpacts .empty c.impacts
  exact Gauges.sampleLines_withVerdicts hnone c.conservation c.stability

theorem run_of_passes (h : Passes files o s loaded c) (stamp : Stamp) :
    ∃ events, run files stamp o = publish files stamp o s loaded.skipped events c := by
  obtain ⟨hs, @⟨bytes, _, hread, hload⟩, hcycle⟩ := h
  refine ⟨Event.ofLoading bytes ++ Event.ofCycle loaded.rows s, ?_⟩
  simp only [run, loadSettings_of_given hs, hread, hload, runLoaded, hcycle]

theorem publish_of_writable (h : Writable files o) (stamp : Stamp) (skipped : ℕ)
    (events : List Event) :
    ∃ told, publish files stamp o s skipped events c =
      { output := summary o.siteId c ++ if o.metrics then (gauges o.siteId c).exposition else ""
        events := told
        report := o.report.map fun path =>
          (path, (Report.ofCertification stamp o.siteId s.windowSeconds skipped c).text)
        error := none } := by
  cases hpath : o.report with
  | none =>
      refine ⟨events ++ verdictEvents o.siteId c, ?_⟩
      simp only [publish, hpath, Option.map_none]
  | some path =>
      refine ⟨events ++ verdictEvents o.siteId c ++ [.reportWritten path], ?_⟩
      simp only [publish, hpath, h path hpath, Option.map_some]

theorem published_of_passes (h : Passes files o s loaded c) (hwritable : Writable files o)
    (stamp : Stamp) : Published stamp o s loaded c (run files stamp o) := by
  obtain ⟨events, hrun⟩ := run_of_passes h stamp
  obtain ⟨told, hpublish⟩ := publish_of_writable hwritable stamp loaded.skipped events
  have hkeys := Gauges.gateKeysDiffer_iff o.siteId
  rw [hrun, hpublish, summary_eq h.cycle]
  exact {
    error := rfl
    exitCode := rfl
    report := rfl
    output := rfl
    gates := fun hown => (sampleLines_gauges o.siteId c).trans (if_pos (hkeys.mpr hown))
    merged_gates := fun hshared =>
      (sampleLines_gauges o.siteId c).trans (if_neg fun hdiffer => hkeys.mp hdiffer hshared) }

theorem unreported_of_passes (h : Passes files o s loaded c) {path : String} {e : FileError}
    (hpath : o.report = some path) (he : files.writeError? path = some e) (stamp : Stamp) :
    Unreported o s loaded path e (run files stamp o) := by
  obtain ⟨events, hrun⟩ := run_of_passes h stamp
  simp only [publish, summary_eq h.cycle, hpath, he] at hrun
  rw [hrun]
  exact ⟨rfl, rfl, rfl, rfl⟩

/-- A run stops at the first stage that fails, be it the settings with their window replaced, the nodes
or the cycle, and then its error is all there is. Past them it prints its account of the site and ends
well, whatever the verdicts are, unless there is a report that it cannot write. The report is the one of
the cycle, and in the metrics behind the account each gate of the site shows its verdict. Only where the
site has one of the eight hashes that both gates share there is a single sample, which has the name of the
first gate and the verdict of the second. -/
theorem run_all_or_nothing (files : Files) (stamp : Stamp) (o : Options) :
    ((∃ e, Stops files o e) ∨ ∃ s loaded c, Passes files o s loaded c) ∧
    (∀ e, Stops files o e → Silent (run files stamp o) e) ∧
    ∀ s loaded c, Passes files o s loaded c →
      (Writable files o → Published stamp o s loaded c (run files stamp o)) ∧
      ∀ path e, o.report = some path → files.writeError? path = some e →
        Unreported o s loaded path e (run files stamp o) := by
  refine ⟨stops_or_passes files o, fun e h => silent_of_stops h stamp, fun s loaded c h => ⟨?_, ?_⟩⟩
  · exact fun hwritable => published_of_passes h hwritable stamp
  · exact fun path e hpath he => unreported_of_passes h hpath he stamp

def noSuchFile : FileError := ⟨"No such file or directory (os error 2)"⟩

def Files.ofTexts (texts : List (String × String)) (writeError? : Option FileError) : Files where
  read path := match texts.lookup path with
    | some text => .ok (Text.encode text)
    | none => .error (.opening noSuchFile)
  writeError? _ := writeError?

def leakTable : String := "id\nN1,outfall,sewer,TP,total,mg/L,0.5,0.05,1,1,0,0,0\n"

def leakDocument : String := "\x7b\"residual\":\x7b\"delta_mass\":1,\"delta_energy\":0\x7d\x7d"

def leakFiles (writeError? : Option FileError) : Files :=
  .ofTexts [("nodes.csv", leakTable), ("config.json", leakDocument)] writeError?

def leakOptions (siteId : String) (report : Option String) : Options :=
  ⟨"nodes.csv", some "config.json", some 3600, siteId, report, true, false⟩

def reportedLeak : Options := leakOptions defaultSite (some "report.json")

def leakSettings : Settings := { Settings.standard with residual := ⟨1, 0⟩ }

def hourlyLeak : Settings := { leakSettings with windowSeconds := 3600 }

def leakLoaded : NodeTable.Loaded :=
  ⟨[⟨"N1", "outfall", "sewer", "TP", "total", "mg/L", 0.5, 0.05, 1, 1, 0, 0, 0, none⟩], 0⟩

def leak : Certification := .computed leakLoaded.rows hourlyLeak

theorem passes_leak (writeError? : Option FileError) (siteId : String) (report : Option String) :
    Passes (leakFiles writeError?) (leakOptions siteId report) hourlyLeak leakLoaded leak := by
  have hsettings : Settings.read leakDocument = .ok leakSettings := by decide +kernel
  have hload : NodeTable.load (Text.encode leakTable) = .ok leakLoaded := by decide +kernel
  exact {
    settings := .file rfl rfl (Text.decode_encode leakDocument) hsettings
    nodes := .table rfl hload
    cycle := Certification.ofRows_eq_ok.mpr ⟨by decide +kernel, by decide +kernel, rfl⟩ }

theorem leak_verdicts : leak.conservation.passed = false ∧ leak.stability.passed = true := by
  decide +kernel

def stampOfLeak : Stamp := ⟨"2025-06-01", "2025-06-01T00:00:00Z"⟩

theorem run_all_or_nothing_leak :
    parse ["--nodes", "nodes.csv", "--config=config.json", "--window-seconds", "3600", "--report",
      "report.json", "--metrics"] = some reportedLeak ∧
    Published stampOfLeak reportedLeak hourlyLeak leakLoaded leak
      (run (leakFiles none) stampOfLeak reportedLeak) ∧
    sampleLines .gatePass (gauges defaultSite leak).exposition =
      [gateLine defaultSite conservationGate false, gateLine defaultSite stabilityGate true] ∧
    Unreported reportedLeak hourlyLeak leakLoaded "report.json" noSuchFile
      (run (leakFiles (some noSuchFile)) stampOfLeak reportedLeak) ∧
    Silent (run (.ofTexts [] none) stampOfLeak reportedLeak)
      (.readingSettings "config.json" noSuchFile) := by
  have hown : Series.key [defaultSite] ∉ sharedHashes := by decide +kernel
  have hrefused : SettingsRefused (.ofTexts [] none) reportedLeak
      (.readingSettings "config.json" noSuchFile) := .unread (e := .opening noSuchFile) rfl rfl
  obtain ⟨-, -, hpasses⟩ := run_all_or_nothing (leakFiles none) stampOfLeak reportedLeak
  obtain ⟨-, -, hpasses'⟩ := run_all_or_nothing (leakFiles (some noSuchFile)) stampOfLeak reportedLeak
  obtain ⟨-, hstops, -⟩ := run_all_or_nothing (.ofTexts [] none) stampOfLeak reportedLeak
  have hpublished := (hpasses _ _ _ (passes_leak none _ _)).1 fun _ _ => rfl
  have hunreported :=
    (hpasses' _ _ _ (passes_leak _ _ _)).2 "report.json" noSuchFile rfl rfl
  have hgates := hpublished.gates hown
  rw [leak_verdicts.1, leak_verdicts.2] at hgates
  exact ⟨by decide +kernel, hpublished, hgates, hunreported, hstops _ (.settings hrefused)⟩

def mergedSite : String := "site-0mksqshpqqwx"

/-- The gate that failed is shown as one that passed, and the one that passed is not shown. -/
theorem gate_gauges_merged :
    parse ["--nodes", "nodes.csv", "--config=config.json", "--window-seconds", "3600", "--site-id",
      mergedSite, "--metrics"] = some (leakOptions mergedSite none) ∧
    Passes (leakFiles none) (leakOptions mergedSite none) hourlyLeak leakLoaded leak ∧
    leak.conservation.passed = false ∧ leak.stability.passed = true ∧
    ∃ metrics, (run (leakFiles none) stampOfLeak (leakOptions mergedSite none)).output =
        account mergedSite hourlyLeak leakLoaded.rows ++ metrics ∧
      sampleLines .gatePass metrics = [gateLine mergedSite conservationGate true] := by
  have hshared : Series.key [mergedSite] ∈ sharedHashes := by decide +kernel
  have hpasses := passes_leak none mergedSite none
  have hpublished := published_of_passes hpasses nofun stampOfLeak
  have hgates := hpublished.merged_gates hshared
  rw [leak_verdicts.2] at hgates
  exact ⟨by decide +kernel, hpasses, leak_verdicts.1, leak_verdicts.2, _, hpublished.output, hgates⟩

end SiteSafety.Command
