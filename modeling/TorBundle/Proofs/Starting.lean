import TorBundle.CommandLine
import TorBundle.Proofs.Build
import TorBundle.Proofs.Settings

/-!
# A start is one build

Whatever the words of a start leave open, it does one build of the standard bundle in a new context
and ends with what that build ends with, or by failing to serve. The filter of the log only selects
among the events of the build. This holds of every setting that gives a filter; a torn setting ends
the program before the build, which no setting should do. Nothing is assumed of the agent.
-/

namespace TorBundle

/-- The replies of an agent to requests one after another, after those of the past. -/
def Agent.replies (agent : Agent) (past : List Request) : List Request → List Reply
  | [] => []
  | q :: rest => agent past q :: Agent.replies agent (past ++ [q]) rest

/-- In the course of a plan the agent answers each request after those before it. -/
theorem Plan.Course.replies {α : Type} {agent : Agent} {p : Plan α} {r : Run}
    {xs : List Exchange} {outcome : Except PreparationFailure α}
    (h : Plan.Course agent p r xs outcome) :
    xs.map Exchange.reply = agent.replies r.requests (xs.map Exchange.request) := by
  induction h with
  | done => rfl
  | known hd rest ih => exact ih
  | @prepared a next r d xs outcome hn hd rest ih =>
    rw [Run.extend_requests] at ih
    exact congrArg (List.cons _) ih
  | failed hn he => rfl

theorem Bundle.build_replies (agent : Agent) (b : Bundle) (r : Run) :
    (b.build agent r).1.exchanges.map Exchange.reply =
      agent.replies r.requests (b.build agent r).1.requests := by
  cases hp : r.context.system.platform with
  | error e =>
    rw [build_of_no_platform agent b hp]
    rfl
  | ok p =>
    obtain ⟨xs, outcome, hc, hb⟩ := build_of_platform agent b hp
    rw [hb]
    exact hc.replies

namespace CommandLine

/-- The words of a start for a system, with an agent and a place to listen at. -/
def startWords (address listen system : String) (unlock : Bool) : List String :=
  ["start", "--agent", address, "--artifact", "tor-expert-bundle", "--artifact-context", "/context",
    "--artifact-namespace", "library", "--artifact-system", system, "--port", listen,
    "--registry", "unix:///registry.sock"] ++ if unlock then ["--artifact-unlock"] else []

/-- The options that these words give. -/
def startOptions (address listen system : String) (unlock : Bool) : Options :=
  { agent := address
    artifact := "tor-expert-bundle"
    context := "/context"
    library := "library"
    system
    listen
    registry := "unix:///registry.sock"
    unlock }

theorem Token.of_flag (key : Key) : Token.of key.flag = .expects key := by
  cases key <;> rfl

/-- An option with its value is put to those given before. -/
theorem readOptions_put {g g' : Given} {key : Key} {value : String}
    (hv : looksLikeOption value = false) (hp : g.put key value = .ok g') (rest : List String) :
    readOptions g (key.flag :: value :: rest) = readOptions g' rest := by
  rw [readOptions, Token.of_flag]
  simp only [hv, hp, Bool.false_eq_true, if_false]

theorem looksLikeOption_of_isAddress {address : String} (h : isAddress address = true) :
    looksLikeOption address = false := by
  have hhead : address.toList.head? ≠ some '-' := by
    obtain ⟨scheme, hscheme, hp⟩ := List.any_eq_true.mp h
    obtain ⟨rest, hrest⟩ := List.isPrefixOf_iff_prefix.mp hp
    rw [← hrest]
    simp only [List.mem_cons, List.not_mem_nil, or_false] at hscheme
    rcases hscheme with rfl | rfl | rfl <;> simp
  simp [looksLikeOption, hhead]

theorem looksLikeOption_of_known {system : String} {target : TargetSystem}
    (h : TargetSystem.ofCanonical? system = some target) : looksLikeOption system = false := by
  unfold TargetSystem.ofCanonical? at h
  split at h
  case h_5 => cases h
  all_goals rfl

theorem ofArgs_startWords {address listen system : String} (ha : looksLikeOption address = false)
    (hl : looksLikeOption listen = false) (hn : isListenNumber listen = true)
    (hs : looksLikeOption system = false) (unlock : Bool) :
    Command.ofArgs (startWords address listen system unlock) =
      .ok (.start (startOptions address listen system unlock)) := by
  have hport (g : Given) (hg : g.values.any (·.1 == Key.listen) = false) :
      g.put .listen listen = .ok { g with values := g.values ++ [(.listen, listen)] } := by
    simp [Given.put, hg, hn]
  change readOptions {} (Key.agent.flag :: address :: Key.artifact.flag :: "tor-expert-bundle" ::
    Key.context.flag :: "/context" :: Key.library.flag :: "library" :: Key.system.flag :: system ::
    Key.listen.flag :: listen :: Key.registry.flag :: "unix:///registry.sock" :: _) = _
  rw [readOptions_put ha rfl, readOptions_put rfl rfl, readOptions_put rfl rfl,
    readOptions_put rfl rfl, readOptions_put hs rfl, readOptions_put hl (hport _ rfl),
    readOptions_put rfl rfl]
  cases unlock <;> rfl

/-- The build that a start amounts to. -/
def standardBuild (agent : Agent) (target : TargetSystem) (unlock : Bool) : Build :=
  (Bundle.standard.build agent (Run.start target
    { unlock, directory := "/context", library := "library",
      registry := "unix:///registry.sock" })).1

/-- What is printed of the replies to requests, each output behind the name that was asked for. -/
def repliedLines (requests : List Request) (replies : List Reply) : List String :=
  (List.zip requests replies).flatMap fun (request, reply) =>
    reply.outputs.flatMap fun output =>
      Text.printedLines (request.artifact.name ++ " |> " ++ output)

/-- The program has done a build and has ended as this build tells. Which of its events are in the
log is left open. -/
structure Outcome.Tells (o : Outcome) (agent : Agent) (b : Build) : Prop where
  requests : o.requests = b.requests
  exit : o.ending.exitCode = 1
  failure : o.ending.failure?.map StartFailure.message =
    some (match b.result with
      | .ok _ => "failed to serve: transport error"
      | .error cause => cause.message)
  stdout : o.stdout = repliedLines b.requests (agent.replies [] b.requests) ++
    match b.result with
      | .ok _ => ["context service: [::]:PORT"]
      | .error _ => []
  log : o.log.Sublist (b.events.map Event.line)

theorem outputLines_eq (exchanges : List Exchange) :
    outputLines exchanges =
      repliedLines (exchanges.map Exchange.request) (exchanges.map Exchange.reply) := by
  rw [repliedLines, List.zip_map', List.flatMap_map]
  rfl

theorem outputLines_standardBuild (agent : Agent) (target : TargetSystem) (unlock : Bool) :
    let build := standardBuild agent target unlock
    outputLines build.exchanges =
      repliedLines build.requests (agent.replies [] build.requests) := by
  intro build
  have hreplies : build.exchanges.map Exchange.reply = agent.replies [] build.requests :=
    Bundle.build_replies agent Bundle.standard _
  rw [outputLines_eq, hreplies]
  rfl

/-- The filter of a start has its say about the log alone. -/
theorem Options.build_eq (o : Options) (agent : Agent) (filter : Log.Filter)
    (target : TargetSystem) :
    let b := (Bundle.standard.build agent (Run.start target o.settings)).1
    o.build (some agent) filter target =
      { ending := .failed (match b.result with
          | .ok _ => .serving
          | .error cause => .build cause)
        log := (b.events.filter fun e => filter.admits e).map Event.line
        stdout := outputLines b.exchanges ++ match b.result with
          | .ok _ => [servingLine]
          | .error _ => []
        requests := b.requests } := by
  rw [Options.build, Option.getD_some]
  obtain ⟨b, after⟩ := Bundle.standard.build agent (Run.start target o.settings)
  cases hb : b.result <;> simp [hb]

theorem build_tells (agent : Agent) (address listen system : String) (target : TargetSystem)
    (unlock : Bool) (filter : Log.Filter) :
    ((startOptions address listen system unlock).build (some agent) filter target).Tells agent
      (standardBuild agent target unlock) := by
  have hbuild := Options.build_eq (startOptions address listen system unlock) agent filter target
  rw [hbuild]
  refine ⟨rfl, rfl, ?failure, ?stdout, List.filter_sublist.map _⟩
  case failure =>
    change some (StartFailure.message (match (standardBuild agent target unlock).result with
      | .ok _ => .serving
      | .error cause => .build cause)) = _
    cases (standardBuild agent target unlock).result <;> rfl
  case stdout =>
    rw [← outputLines_standardBuild]
    rfl

/-- A torn filter ends the program before it has begun. -/
theorem run_torn (args : List String) (agent : Option Agent) {setting : Option String}
    (h : Log.Filter.ofSetting? setting = none) : run args setting agent = { ending := .torn } := by
  simp only [run, h]

theorem run_startWords (agent : Agent) {address listen system : String} {target : TargetSystem}
    (ha : isAddress address = true) (hl : looksLikeOption listen = false)
    (hn : isListenNumber listen = true) (hs : TargetSystem.ofCanonical? system = some target)
    (unlock : Bool) {setting : Option String} {filter : Log.Filter}
    (hf : Log.Filter.ofSetting? setting = some filter) :
    run (startWords address listen system unlock) setting (some agent) =
      (startOptions address listen system unlock).build (some agent) filter target := by
  have hargs := ofArgs_startWords (looksLikeOption_of_isAddress ha) hl hn
    (looksLikeOption_of_known hs) unlock
  have haddresses : [address, "unix:///registry.sock"].find? (fun a => !isAddress a) = none := by
    rw [List.find?_eq_none]
    intro a hmem
    rcases List.mem_pair.mp hmem with rfl | rfl
    · rw [ha]
      decide
    · decide
  simp only [run, hf, hargs, Options.start, startOptions, haddresses, hs]

/-- A start for a known system does the standard build, whichever filter its setting gives: a
setting of a level shows the events up to it, and a missing or malformed one shows those of
information. A torn setting alone keeps it from building, and no setting in ASCII is torn. -/
theorem start_is_one_build (agent : Agent) {address listen system : String}
    {target : TargetSystem} (ha : isAddress address = true)
    (hl : looksLikeOption listen = false) (hn : isListenNumber listen = true)
    (hs : TargetSystem.ofCanonical? system = some target) (unlock : Bool) :
    let build := standardBuild agent target unlock
    let start := fun setting =>
      run (startWords address listen system unlock) setting (some agent)
    (∀ setting, Log.Filter.ofSetting? setting ≠ none → (start setting).Tells agent build) ∧
    (∀ setting ∈ [some "trace", some "debug"],
      (start setting).log = build.events.map Event.line) ∧
    (∀ setting, (setting = none ∨ setting = some "info" ∨
        ∃ s, setting = some s ∧ Log.Filter.ofText s = .error .malformed) →
      (start setting).log = (build.events.filter fun e => e.level == .info).map Event.line) ∧
    (∀ setting setting', Log.Filter.ofSetting? setting ≠ none →
      Log.Filter.ofSetting? setting' ≠ none →
      (start setting).requests = (start setting').requests ∧
      (start setting).stdout = (start setting').stdout ∧
      (start setting).ending = (start setting').ending) ∧
    (∀ setting, Log.Filter.ofSetting? setting = none →
      (start setting).ending.exitCode = 101 ∧ (start setting).requests = [] ∧
      (start setting).stdout = [] ∧ (start setting).log = []) ∧
    ∀ s : String, (∀ c ∈ s.toList, c.toNat < 128) → Log.Filter.ofSetting? (some s) ≠ none := by
  intro build start
  have hstart {setting filter} (hf : Log.Filter.ofSetting? setting = some filter) :
      start setting = (startOptions address listen system unlock).build (some agent) filter target :=
    run_startWords agent ha hl hn hs unlock hf
  have hlog {setting filter} (hf : Log.Filter.ofSetting? setting = some filter) :
      (start setting).log = (build.events.filter fun e => filter.admits e).map Event.line := by
    rw [hstart hf, Options.build_eq]
    rfl
  refine ⟨?tells, ?all, ?information, ?alike, ?torn, fun s => Log.Filter.ofSetting?_ascii⟩
  case tells =>
    intro setting hread
    obtain ⟨filter, hf⟩ := Option.ne_none_iff_exists'.mp hread
    rw [hstart hf]
    exact build_tells agent address listen system target unlock filter
  case all =>
    intro setting hsetting
    have hlevel : ∃ v, Level.debug.verbosity ≤ v ∧
        Log.Filter.ofSetting? setting = some [{ verbosity := v }] := by
      rcases List.mem_pair.mp hsetting with rfl | rfl
      · exact ⟨Level.trace.verbosity, by decide, by decide⟩
      · exact ⟨Level.debug.verbosity, by decide, by decide⟩
    obtain ⟨v, hle, hf⟩ := hlevel
    rw [hlog hf, List.filter_eq_self.mpr fun e _ => Log.Filter.admits_of_debug_le hle e]
  case information =>
    intro setting hsetting
    have hf : Log.Filter.ofSetting? setting = some Log.Filter.standard := by
      rcases hsetting with rfl | rfl | ⟨s, rfl, hs⟩
      · rfl
      · decide
      · exact Log.Filter.ofSetting?_malformed hs
    simp only [hlog hf, Log.Filter.admits_standard]
  case alike =>
    intro setting setting' hread hread'
    obtain ⟨filter, hf⟩ := Option.ne_none_iff_exists'.mp hread
    obtain ⟨filter', hf'⟩ := Option.ne_none_iff_exists'.mp hread'
    rw [hstart hf, hstart hf', Options.build_eq, Options.build_eq]
    exact ⟨rfl, rfl, rfl⟩
  case torn =>
    intro setting htorn
    have hrun : start setting = { ending := .torn } := run_torn _ _ htorn
    rw [hrun]
    exact ⟨rfl, rfl, rfl, rfl⟩

/-- The top layer of the base image breaks off, and the setting cannot be read. -/
theorem start_is_one_build_broken_off :
    let agent := Agent.Script.agent
      [("linux-vorpal", [.stream [{ output := some "a\nb" }] (some ⟨13, "gone"⟩)])]
    let start := run (startWords "unix:///agent.sock" "0" "x86_64-linux" true) (some "a=b=c")
      (some agent)
    isAddress "unix:///agent.sock" = true ∧ looksLikeOption "0" = false ∧
    isListenNumber "0" = true ∧
    TargetSystem.ofCanonical? "x86_64-linux" = some .x8664Linux ∧
    Log.Filter.ofText "a=b=c" = .error .malformed ∧
    start.Tells agent (standardBuild agent .x8664Linux true) ∧
    start.stdout = ["linux-vorpal |> a", "b"] := by
  intro agent start
  have ha : isAddress "unix:///agent.sock" = true := by decide
  have hl : looksLikeOption "0" = false := by decide
  have hn : isListenNumber "0" = true := by decide
  have hs : TargetSystem.ofCanonical? "x86_64-linux" = some .x8664Linux := rfl
  have hmalformed : Log.Filter.ofText "a=b=c" = .error .malformed := rfl
  have hread : Log.Filter.ofSetting? (some "a=b=c") ≠ none := by decide
  have htells := (start_is_one_build agent ha hl hn hs true).1 (some "a=b=c") hread
  exact ⟨ha, hl, hn, hs, hmalformed, htells, by decide +kernel⟩

/-- A wide blank in front moves the first cut into the middle of this blank. -/
theorem start_torn :
    let agent := Agent.Script.agent []
    let start := fun setting =>
      run (startWords "unix:///agent.sock" "0" "aarch64-darwin" false) setting (some agent)
    (start (some "\u3000[x]=info")).ending.exitCode = 101 ∧
    (start (some "\u3000[x]=info")).requests = [] ∧
    (start none).ending.exitCode = 1 ∧
    (start none).requests = (standardBuild agent .aarch64Darwin false).requests ∧
    (standardBuild agent .aarch64Darwin false).requests ≠ [] := by
  decide +kernel

end CommandLine

end TorBundle
