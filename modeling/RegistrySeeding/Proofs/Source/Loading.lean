import RegistrySeeding.Proofs.Json.Entries
import RegistrySeeding.Proofs.Json.Position
import RegistrySeeding.Proofs.Seed.Idempotence
import RegistrySeeding.Proofs.Seed.Parting
import RegistrySeeding.Proofs.Seed.Provenance
import RegistrySeeding.Proofs.Seed.Refusal
import RegistrySeeding.Source.Directory

/-! Records kept in files. A file bears on a run from the moment it is loaded and no sooner; a file
that cannot be loaded ends the run there and then, and files that can be are as good as records held
in memory. -/
namespace RegistrySeeding
open Json (Codec Fault)
variable {σ : Type}

namespace Source

def place (directory : String) (stage : Stage) : String := joinPath directory stage.fileName

def refusal? {ε α : Type} : Except ε α → Option ε
  | .ok _ => none
  | .error e => some e

def loadError? (files : Files) (directory : String) : Stage → Option Error
  | .chains => refusal? (readRecords files .chains Chain.codec (place directory .chains))
  | .assets => refusal? (readRecords files .assets Asset.codec (place directory .assets))
  | .deployments =>
    refusal? (readRecords files .deployments Deployment.codec (place directory .deployments))

def Lists (text : String) : Stage → Prop
  | .chains => ∃ records, Chain.codec.Lists text records
  | .assets => ∃ records, Asset.codec.Lists text records
  | .deployments => ∃ records, Deployment.codec.Lists text records

def listFault? (text : String) : Stage → Option Fault
  | .chains => refusal? (Chain.codec.list.decode text)
  | .assets => refusal? (Asset.codec.list.decode text)
  | .deployments => refusal? (Deployment.codec.list.decode text)

section
variable {files : Files} {directory : String}

theorem loadUnreadable {stage : Stage} {fault : FileFault}
    (unread : files.text (place directory stage) = .error fault) :
    loadError? files directory stage =
      some (.sourceUnreadable (place directory stage ++ ": " ++ fault.message)) := by
  have refused {α : Type} (codec : Codec α) :
      readRecords files stage codec (place directory stage) =
        .error (.sourceUnreadable (place directory stage ++ ": " ++ fault.message)) := by
    unfold readRecords
    rw [unread]
  cases stage with
  | chains => exact congrArg refusal? (refused Chain.codec)
  | assets => exact congrArg refusal? (refused Asset.codec)
  | deployments => exact congrArg refusal? (refused Deployment.codec)

theorem decodeUnlisted {α : Type} (codec : Codec α) {stage : Stage} {text : String}
    (there : files.text (place directory stage) = .ok text)
    (unlisted : ¬∃ records, codec.Lists text records) :
    ∃ fault, codec.list.decode text = .error fault ∧ fault.Inside text.toList ∧
      readRecords files stage codec (place directory stage) = .error
        (.sourceMalformed stage.label (place directory stage ++ ": " ++ fault.message)) := by
  cases decoded : codec.list.decode text with
  | ok records => exact absurd ⟨records, Codec.decodeLists decoded⟩ unlisted
  | error fault =>
    refine ⟨fault, rfl, Json.documentInside decoded, ?_⟩
    unfold readRecords
    rw [there]
    simp only [decodeRecords, decoded]

theorem loadMalformed {stage : Stage} {text : String}
    (there : files.text (place directory stage) = .ok text) (unlisted : ¬Lists text stage) :
    ∃ fault, listFault? text stage = some fault ∧ fault.Inside text.toList ∧
      loadError? files directory stage = some
        (.sourceMalformed stage.label (place directory stage ++ ": " ++ fault.message)) := by
  cases stage with
  | chains =>
    obtain ⟨fault, decoded, inside, read⟩ := decodeUnlisted Chain.codec there unlisted
    exact ⟨fault, congrArg refusal? decoded, inside, congrArg refusal? read⟩
  | assets =>
    obtain ⟨fault, decoded, inside, read⟩ := decodeUnlisted Asset.codec there unlisted
    exact ⟨fault, congrArg refusal? decoded, inside, congrArg refusal? read⟩
  | deployments =>
    obtain ⟨fault, decoded, inside, read⟩ := decodeUnlisted Deployment.codec there unlisted
    exact ⟨fault, congrArg refusal? decoded, inside, congrArg refusal? read⟩

theorem loadRefuses {registry : Registry σ} {m : Moment} {stage : Stage} {e : Error}
    (fails : loadError? files directory stage = some e)
    (given : m.Given (ofDirectory files directory) registry)
    (asks : m.call? = some (.load stage)) : m.error? = some e := by
  have refused {α : Type} {read : Except Error α} (fails : refusal? read = some e) :
      (Reply.answered read false).error? = some e := by
    cases read with
    | ok x => cases fails
    | error e' => exact fails
  cases m with
  | chains reply =>
    cases asks
    obtain ⟨_, rfl⟩ := given
    exact refused fails
  | assets reply =>
    cases asks
    obtain ⟨_, rfl⟩ := given
    exact refused fails
  | deployments reply =>
    cases asks
    obtain ⟨_, rfl⟩ := given
    exact refused fails
  | listing reply => cases asks
  | submission s reply => cases asks
  | interrupt => cases asks

end

section
variable {files files' : Files} {directory directory' : String}

def SameFile (files files' : Files) (directory directory' : String) (stage : Stage) : Prop :=
  files (place directory stage) = files' (place directory' stage)

theorem decodeTogether {α : Type} (stage : Stage) (codec : Codec α) (path path' text : String) :
    Matches (path = path') (decodeRecords stage codec path text)
      (decodeRecords stage codec path' text) := by
  unfold decodeRecords
  cases codec.list.decode text with
  | ok records => exact .came records
  | error fault => exact .failed fun equal => by rw [equal]

theorem loadTogether {α : Type} {stage : Stage} (codec : Codec α)
    (same : SameFile files files' directory directory' stage) :
    Exchange.Together (directory = directory')
      (load files directory stage codec : σ → Exchange σ (List α))
      (load files' directory' stage codec) := by
  intro world
  refine ⟨_, _, rfl, rfl, ?_, rfl⟩
  have text : files.text (place directory stage) = files'.text (place directory' stage) := by
    unfold Files.text
    rw [same]
  change Matches _ (readRecords files stage codec (place directory stage))
    (readRecords files' stage codec (place directory' stage))
  unfold readRecords
  rw [text]
  cases files'.text (place directory' stage) with
  | error fault => exact .failed fun equal => by rw [equal]
  | ok text => exact (decodeTogether stage codec _ _ text).weaken fun equal => by rw [equal]

end

theorem loadedSimilar {files : Files} {directory : String} {chains : List Chain}
    {assets : List Asset} {deployments : List Deployment}
    (first : readRecords files .chains Chain.codec (place directory .chains) = .ok chains)
    (second : readRecords files .assets Asset.codec (place directory .assets) = .ok assets)
    (third : readRecords files .deployments Deployment.codec (place directory .deployments) =
      .ok deployments) :
    Source.Similar Eq (ofDirectory files directory : Source σ).muted
      (ofRecords chains assets deployments).muted := by
  have loaded {α : Type} {stage : Stage} {codec : Codec α} {records : List α}
      (read : readRecords files stage codec (place directory stage) = .ok records) :
      Exchange.Similar Eq id
        (Exchange.muted (load files directory stage codec : σ → Exchange σ (List α)))
        (Exchange.muted (Exchange.plain (.ok records))) :=
    Exchange.mutedSimilar fun w => ⟨congrArg (fun r => (Reply.answered r false).map id) read, rfl⟩
  exact ⟨loaded first, loaded second, loaded third⟩

end Source

namespace Run
open Activity

section
variable {source source' : Source σ} {registry : Registry σ} {interrupts : Interrupts σ}
  {strict : Prop}

theorem chainsTogether (loads : Exchange.Together strict source.chains source'.chains) :
    Together strict (chains source registry interrupts) (chains source' registry interrupts) :=
  togetherBind (togetherAtStep _ (togetherPerform _ loads))

theorem assetsTogether (loads : Exchange.Together strict source.assets source'.assets) :
    Together strict (assets source registry interrupts) (assets source' registry interrupts) :=
  togetherBind (togetherAtStep _ (togetherPerform _ loads))

theorem partsAssets (chains : Together strict (chains source registry interrupts)
      (chains source' registry interrupts)) :
    Parts strict (.load .assets) (stages source registry interrupts)
      (stages source' registry interrupts) :=
  partsAfter (togetherMapFailure _ chains) fun _ =>
    partsBind (partsMapFailure _ (partsBind (partsPerform _ _ _ _)))

theorem partsDeployments (chains : Together strict (chains source registry interrupts)
      (chains source' registry interrupts))
    (assets : Together strict (assets source registry interrupts)
      (assets source' registry interrupts)) :
    Parts strict (.load .deployments) (stages source registry interrupts)
      (stages source' registry interrupts) :=
  partsAfter (togetherMapFailure _ chains) fun _ => partsAfter (togetherMapFailure _ assets) fun _ =>
    partsBind (partsMapFailure _ (partsAfter (togetherSelf _) fun _ =>
      partsBind (partsPerform _ _ _ _)))

end

def Finished.Refused (run : Finished σ) (stage : Stage) (e : Error) : Prop :=
  (run.HaltsAt stage e ∨ run.StopsShortOf stage) ∧
    ∀ s, .submit s ∈ Journal.calls run.journal → s.stage ≠ stage

theorem refusedFile {files : Files} {directory : String} {stage : Stage} {e : Error}
    (stamp : Stamp) (registry : Registry σ) (interrupts : Interrupts σ) (cancelled : Bool)
    (world : σ) (fails : Source.loadError? files directory stage = some e) :
    (seed stamp (.ofDirectory files directory) registry interrupts cancelled world).Refused
      stage e :=
  seedRefused stamp _ registry interrupts cancelled world fun m inside asks =>
    Source.loadRefuses fails
      (momentsGiven _ registry interrupts cancelled world m inside) asks

/-- A file bears on a run from its load on: what came before is the same with any other file in its
place. A file without a list of records ends the run at its load, for a fault at a place inside the
file, and with three good files the run is that over their records. -/
theorem filesLoadedInTurn (files files' : Files) (directory directory' : String)
    (registry : Registry σ) (interrupts : Interrupts σ) (cancelled : Bool) (world : σ)
    (stamp stamp' : Stamp) :
    let one := seed stamp (.ofDirectory files directory) registry interrupts cancelled world
    let other := seed stamp' (.ofDirectory files' directory') registry interrupts cancelled world
    let place := Source.place directory
    (Source.SameFile files files' directory directory' .chains →
      Finished.PartsAt (directory = directory') (.load .assets) stamp stamp' one other ∧
      Journal.callsBefore (.load .assets) one.journal =
        Journal.callsBefore (.load .assets) other.journal ∧
      one.outcome.stage? .chains = other.outcome.stage? .chains) ∧
    (Source.SameFile files files' directory directory' .chains →
      Source.SameFile files files' directory directory' .assets →
      Finished.PartsAt (directory = directory') (.load .deployments) stamp stamp' one other ∧
      Journal.callsBefore (.load .deployments) one.journal =
        Journal.callsBefore (.load .deployments) other.journal ∧
      one.outcome.stage? .chains = other.outcome.stage? .chains ∧
      one.outcome.stage? .assets = other.outcome.stage? .assets) ∧
    (∀ stage fault, files.text (place stage) = .error fault →
      one.Refused stage (.sourceUnreadable (place stage ++ ": " ++ fault.message))) ∧
    (∀ stage text, files.text (place stage) = .ok text → ¬Source.Lists text stage →
      ∃ fault, Source.listFault? text stage = some fault ∧ fault.Inside text.toList ∧
        one.Refused stage (.sourceMalformed stage.label (place stage ++ ": " ++ fault.message))) ∧
    (∀ chains assets deployments,
      Source.readRecords files .chains Chain.codec (place .chains) = .ok chains →
      Source.readRecords files .assets Asset.codec (place .assets) = .ok assets →
      Source.readRecords files .deployments Deployment.codec (place .deployments) =
        .ok deployments →
      let held := seed stamp' (.ofRecords chains assets deployments) registry interrupts cancelled
        world
      Finished.SameBut stamp stamp' one held ∧ one.world = held.world) := by
  intro one other place
  have loaded (same : Source.SameFile files files' directory directory' .chains) :
      Together (directory = directory')
        (chains (.ofDirectory files directory) registry interrupts)
        (chains (.ofDirectory files' directory') registry interrupts) :=
    chainsTogether (Source.loadTogether Chain.codec same)
  have loaded' (same : Source.SameFile files files' directory directory' .assets) :
      Together (directory = directory')
        (assets (.ofDirectory files directory) registry interrupts)
        (assets (.ofDirectory files' directory') registry interrupts) :=
    assetsTogether (Source.loadTogether Asset.codec same)
  refine ⟨fun first => ?_, fun first second => ?_, fun stage fault unread => ?_,
    fun stage text there unlisted => ?_, fun chains assets deployments first second third => ?_⟩
  · have parts := seedParts stamp stamp' (partsAssets (loaded first)) cancelled world
    exact ⟨parts, parts.callsBefore,
      chainsKept stamp stamp' (keptChains (loaded first) cancelled world)⟩
  · have parts := seedParts stamp stamp' (partsDeployments (loaded first) (loaded' second))
      cancelled world
    have kept := keptAssets (loaded first) (loaded' second) cancelled world
    exact ⟨parts, parts.callsBefore, assetsKept stamp stamp' kept⟩
  · exact refusedFile stamp registry interrupts cancelled world (Source.loadUnreadable unread)
  · obtain ⟨fault, found, inside, fails⟩ := Source.loadMalformed there unlisted
    exact ⟨fault, found, inside, refusedFile stamp registry interrupts cancelled world fails⟩
  · exact seedAlike (Source.loadedSimilar first second third) (Registry.selfSimilar _)
      interrupts.selfSimilar stamp stamp' cancelled rfl

def sampleFiles (deployments : Except FileFault (List UInt8)) : Files
  | "data/chains.json" =>
    .ok (Text.Utf8.encode "[[\"ethereum\",\"Ethereum\",\"EVM\",\"ETH\",[],\"\"]]")
  | "data/assets.json" =>
    .ok (Text.Utf8.encode " [[\"eth\",\"ETH\",\"Ether\",\"ASSET_TYPE_NATIVE\"]]\n")
  | "data/deployments.json" => deployments
  | _ => .error .notFound

def halfDeployments : String := "[[\"ETH\",\"ethereum\",\"0x1\",18,true],\n[\"ETH\"]]"

theorem halfUnlisted : ¬Source.Lists halfDeployments .deployments := by
  let read (text : String) : Except Json.Stop (Deployment × List Char) :=
    Deployment.codec.read ⟨Json.depthLimit - 1, halfDeployments.toList.length + 1⟩ text.toList
  have whole : Json.Scan.skipGaps halfDeployments.toList =
      '[' :: "[\"ETH\",\"ethereum\",\"0x1\",18,true],\n[\"ETH\"]]".toList := by decide
  have good : (read "[\"ETH\",\"ethereum\",\"0x1\",18,true],\n[\"ETH\"]]").toOption.map (·.2) =
      some ",\n[\"ETH\"]]".toList := by decide +kernel
  have bad : (read "[\"ETH\"]]").toOption.map (·.2) = none := by decide +kernel
  rintro ⟨records, inside, after, opens, entries, -⟩
  cases whole.symm.trans opens
  cases entries with
  | closed close => exact absurd (List.cons.inj close).1 (by decide)
  | entry begins came more =>
    cases (show _ = _ from begins)
    cases good.symm.trans (congrArg (·.toOption.map (·.2)) came)
    cases more with
    | closed close => exact absurd (List.cons.inj close).1 (by decide)
    | entry begins came more =>
      obtain ⟨tail, comma, rfl⟩ := begins
      cases (show ',' :: "\n[\"ETH\"]]".toList = ',' :: tail from comma)
      cases bad.symm.trans (congrArg (·.toOption.map (·.2)) came)

theorem sampleFilesLoaded :
    let files := sampleFiles (.ok (Text.Utf8.encode halfDeployments))
    let files' := sampleFiles (.error .isDirectory)
    let good := sampleFiles (.ok (Text.Utf8.encode "[[\"ETH\",\"ethereum\",\"0x1\",18,true]]"))
    let run (name : String) (files : Files) := seed (sampleStamp name)
      (.ofDirectory files "data") Ledger.registry .never false sampleLedger
    let found {α : Type} (stage : Stage) (codec : Codec α) : List α :=
      (Source.readRecords good stage codec (Source.place "data" stage)).toOption.getD []
    let held := seed (sampleStamp "held") (.ofRecords (found .chains Chain.codec)
      (found .assets Asset.codec) (found .deployments Deployment.codec)) Ledger.registry .never false
      sampleLedger
    Source.SameFile files files' "data" "data" .chains ∧
    Source.SameFile files files' "data" "data" .assets ∧
    (Journal.callsBefore (.load .deployments) (run "one" files).journal).length = 5 ∧
    Journal.callsBefore (.load .deployments) (run "one" files).journal =
      Journal.callsBefore (.load .deployments) (run "other" files').journal ∧
    files.text "data/deployments.json" = .ok halfDeployments ∧
    ¬Source.Lists halfDeployments .deployments ∧
    (run "one" files).Refused .deployments (.sourceMalformed "deployment"
      ("data/deployments.json: invalid length 1, expected struct DeploymentCandidate with " ++
        "5 elements at line 2 column 7")) ∧
    (run "other" files').Refused .deployments
      (.sourceUnreadable "data/deployments.json: Is a directory (os error 21)") ∧
    Finished.SameBut (sampleStamp "good") (sampleStamp "held") (run "good" good) held ∧
    held.outcome.stages.map (·.created) = [1, 1, 1] := by
  intro files files' good run found held
  have first : Source.SameFile files files' "data" "data" .chains := rfl
  have second : Source.SameFile files files' "data" "data" .assets := rfl
  have there : files.text "data/deployments.json" = .ok halfDeployments := by
    have decoded : Text.Utf8.decode? (Text.Utf8.encode halfDeployments) = some halfDeployments := by
      decide +kernel
    simp only [Files.text, files, sampleFiles, decoded]
  have given {α : Type} {read : Except Error (List α)} (came : read.toOption.isSome) :
      read = .ok (read.toOption.getD []) := by
    cases read with
    | ok x => rfl
    | error e => cases came
  obtain ⟨-, parts, -, malformed, -⟩ := filesLoadedInTurn files files' "data" "data"
    Ledger.registry .never false sampleLedger (sampleStamp "one") (sampleStamp "other")
  obtain ⟨-, -, unreadable, -⟩ := filesLoadedInTurn files' files "data" "data"
    Ledger.registry .never false sampleLedger (sampleStamp "other") (sampleStamp "one")
  obtain ⟨-, -, -, -, decoded⟩ := filesLoadedInTurn good files "data" "data"
    Ledger.registry .never false sampleLedger (sampleStamp "good") (sampleStamp "held")
  obtain ⟨fault, found, -, refused⟩ := malformed .deployments halfDeployments there halfUnlisted
  have same : fault = ⟨.wrongLength 1 "struct DeploymentCandidate with 5 elements", 2, 7⟩ :=
    Option.some.inj (found.symm.trans (by decide +kernel))
  subst same
  have text : Source.place "data" .deployments ++ ": " ++
      Fault.message ⟨.wrongLength 1 "struct DeploymentCandidate with 5 elements", 2, 7⟩ =
      "data/deployments.json: invalid length 1, expected struct DeploymentCandidate with " ++
        "5 elements at line 2 column 7" := by decide +kernel
  rw [text] at refused
  have called := (parts first second).2.1
  have alike := (decoded _ _ _ (given (by decide +kernel)) (given (by decide +kernel))
    (given (by decide +kernel))).1
  exact ⟨first, second, by decide +kernel, called, there, halfUnlisted, refused,
    unreadable .deployments .isDirectory rfl, alike, by decide +kernel⟩

end Run
end RegistrySeeding
