/-
# ModuleBundler.Proofs.Compression.Settings -- what the printed settings say

The settings list, for each target with a destination, the file that is compressed in place.
They are put together entry by entry, and an entry would take the place of another one of its
name; as names are declared once, none does (`fragment_tasks`). Their text is read back as what
they list, whatever characters stand in names and destinations, so that two configurations have
the same settings exactly if they list the same (`settings_faithful`).

Destinations count as they are written: `a//b` and `a/b` are listed as two.
-/

import ModuleBundler.Program
import ModuleBundler.Proofs.Config.Precedence
import ModuleBundler.Proofs.Json.Reader

namespace ModuleBundler.Compress

/-! ## What is listed -/

/-- The targets with a destination, in the order of their declaration: their names, and where
they are written to. The reserved name is none. -/
def outputs (b : BundleSection) : List (String × Path) :=
  (b.targets.entries.filter (·.1 ≠ "options")).filterMap fun entry => entry.2.dest.map (entry.1, ·)

/-- How an output is listed: it is read from and written to its destination. -/
def entry (output : String × Path) : String × Json :=
  (output.1, .object [("src", .string output.2.text), ("dest", .string output.2.text)])

/-- The settings that list outputs, in their order. -/
def listing (outputs : List (String × Path)) : Json :=
  .object (outputs.map entry)

/-- The text of the settings. -/
def settingsText (b : BundleSection) : String :=
  (fragment (tasks b)).pretty ++ "\n"

theorem tasks_eq_map (b : BundleSection) :
    tasks b = (outputs b).map fun output => ⟨output.1, output.2, output.2⟩ := by
  have hreserved : (b.targets.entries.filter (·.1 ≠ "options")) =
      b.targets.entries.filter fun entry => entry.1 != Target.reservedName :=
    List.filter_congr fun entry _ => by simp [Target.reservedName, bne, beq_eq_decide]
  rw [tasks, outputs, Target.all, hreserved, List.filterMap_map, List.map_filterMap]
  apply List.filterMap_congr
  intro entry _
  show Task.ofTarget? (Target.ofEntry entry) = _
  cases hdest : entry.2.dest <;> simp [Task.ofTarget?, Target.ofEntry, hdest]

/-- Outputs are named by different targets. -/
theorem outputs_names_nodup (b : BundleSection) : ((outputs b).map Prod.fst).Nodup := by
  have hsome : (outputs b).map Prod.fst =
      ((b.targets.entries.filter (·.1 ≠ "options")).filter (·.2.dest.isSome)).map Prod.fst := by
    rw [outputs, List.map_filterMap]
    induction b.targets.entries.filter (·.1 ≠ "options") with
    | nil => rfl
    | cons entry rest ih => cases hdest : entry.2.dest <;> simpa [hdest] using ih
  rw [hsome]
  apply List.Nodup.sublist _ b.targets.distinct
  exact (List.filter_sublist.trans List.filter_sublist).map Prod.fst

/-- No entry takes the place of another one. -/
theorem fragment_tasks (b : BundleSection) : fragment (tasks b) = listing (outputs b) := by
  have hentries : (tasks b).map (fun t => (t.name, t.json)) = (outputs b).map entry := by
    rw [tasks_eq_map, List.map_map]
    rfl
  rw [fragment, hentries]
  apply Json.ofEntries_of_nodup
  rw [List.map_map]
  exact outputs_names_nodup b

/-- What is listed can be told from the listing. -/
theorem listing_injective {os os' : List (String × Path)} (h : listing os = listing os') :
    os = os' := by
  have hentry : Function.Injective entry := by
    rintro ⟨name, ⟨dest⟩⟩ ⟨name', ⟨dest'⟩⟩ hsame
    simpa [entry] using hsame
  exact List.map_injective_iff.mpr hentry (Json.object.inj h)

/-! ## What is printed -/

theorem read_settingsText (b : BundleSection) :
    Json.read (settingsText b) = some (listing (outputs b)) := by
  have hblank : ∀ c ∈ "\n".toList, Json.isBlank c = true := by
    intro c hc
    rw [List.mem_singleton.mp hc]
    rfl
  rw [settingsText, Json.read_pretty_append _ _ hblank, fragment_tasks]

/-- The settings are printed behind what was written before. -/
theorem run_compressConfig {i : CommandLine.Invocation} (hrequest : i.request = .compressConfig)
    {s s₁ : Session} {c : Config}
    (hload : (Config.load (i.config.map Path.mk)).run s = (.ok c, s₁)) :
    ∃ s', (Program.run i).run s = (.ok none, s') ∧
      s'.output = s₁.output ++ (settingsText c.bundle).toUTF8.toList := by
  rw [Program.run, hrequest]
  dsimp only
  rw [Job.run_bind_of_ok hload, Job.run_bind_of_ok (Job.run_forM_report _ _)]
  exact ⟨_, rfl, rfl⟩

/-- **The settings say what is compressed.** Whatever characters stand in names and destinations:
* the settings have an entry for each target with a destination, but for the reserved name, in the
  order of declaration, with the destination as its source and as its destination;
* no two of these entries have one name;
* their text is read back as exactly this listing;
* another configuration has the same text exactly if it has the same targets with the same
  destinations, as they are written, those without a destination left out;
* this text is what the program prints, when it is asked for the settings of a configuration that
  could be loaded. -/
theorem settings_faithful (b : BundleSection) :
    fragment (tasks b) = listing (outputs b) ∧
    ((outputs b).map Prod.fst).Nodup ∧
    Json.read (settingsText b) = some (listing (outputs b)) ∧
    (∀ b' : BundleSection, settingsText b = settingsText b' ↔ outputs b = outputs b') ∧
    ∀ (i : CommandLine.Invocation) (c : Config) (s s₁ : Session), i.request = .compressConfig →
      (Config.load (i.config.map Path.mk)).run s = (.ok c, s₁) → c.bundle = b →
      ∃ s', (Program.run i).run s = (.ok none, s') ∧
        s'.output = s₁.output ++ (settingsText b).toUTF8.toList := by
  refine ⟨fragment_tasks b, outputs_names_nodup b, read_settingsText b, ?_, ?_⟩
  · intro b'
    constructor
    · intro htext
      have hread := read_settingsText b
      rw [htext, read_settingsText b'] at hread
      exact (listing_injective (Option.some.inj hread)).symm
    · intro houtputs
      rw [settingsText, settingsText, fragment_tasks b, fragment_tasks b', houtputs]
  · rintro i c s s₁ hrequest hload rfl
    exact run_compressConfig hrequest hload

/-- Quotes, backslashes and characters of every size in names and destinations, and a target
without one. -/
theorem settings_faithful_escaped :
    let file := "[bundle.\"say \\\"ä\\\"\"]\ndest = 'out\\😀.js'\n[bundle.lone]\n" ++
      "[bundle.z]\ndest = \"out/\\u0007\\n.js\"\n"
    let s : Session := { tree := { entries := [(["amdbundle.toml"], .file (.text file))] } }
    let i : CommandLine.Invocation := ⟨none, 0, false, .compressConfig⟩
    let listed : List (String × Path) := [("say \"ä\"", ⟨"out\\😀.js"⟩), ("z", ⟨"out/\x07\n.js"⟩)]
    ∃ c s₁ s', (Config.load none).run s = (.ok c, s₁) ∧ outputs c.bundle = listed ∧
      (c.bundle.targets.map Prod.fst).Nodup ∧
      Json.read (settingsText c.bundle) = some (listing listed) ∧
      (Program.run i).run s = (.ok none, s') ∧
      s'.output = s₁.output ++ (settingsText c.bundle).toUTF8.toList := by
  intro file s i listed
  have houtputs : ((Config.load none).run s).1.toOption.map (fun c => outputs c.bundle) =
      some listed := by
    decide +kernel
  obtain ⟨c, hc, houtputs⟩ := Option.map_eq_some_iff.mp houtputs
  have hload := Job.run_eq_of_toOption hc
  obtain ⟨-, -, hread, -, hprinted⟩ := settings_faithful c.bundle
  obtain ⟨s', hrun, houtput⟩ := hprinted i c s _ rfl hload rfl
  rw [houtputs] at hread
  exact ⟨c, _, s', hload, houtputs, c.bundle.targets.names_nodup, hread, hrun, houtput⟩

end ModuleBundler.Compress
