import RegistrySeeding.App
import RegistrySeeding.Proofs.Json.Faithful
import RegistrySeeding.Proofs.Time.Rfc3339

/-! Every record comes back from the document that is written of it, whatever document it was read
from. Each codec is put together from its fields as the record is. -/
namespace RegistrySeeding
open Json (Codec Choice Record)

theorem AssetKind.lossless : AssetKind.codec.Lossless :=
  Choice.lossless (by decide) fun x => by cases x <;> decide

theorem Stage.lossless : Stage.codec.Lossless :=
  Choice.lossless (by decide) fun x => by cases x <;> decide

theorem Step.lossless : Step.codec.Lossless :=
  Choice.lossless (by decide) fun x => by cases x <;> decide

theorem Status.lossless : Status.codec.Lossless :=
  Choice.lossless (by decide) fun x => by cases x <;> decide

theorem Chain.reversible : Chain.codec.Reversible fun _ => True := by
  have fields : Chain.record.fields.Faithful _ _ :=
    .cons (.required "chain_id" Codec.stringLossless) <|
    .cons (.required "name" Codec.stringLossless) <|
    .cons (.required "chain_type" Codec.stringLossless) <|
    .cons (.required "native_asset_symbol" Codec.stringLossless) <|
    .cons (.required "rpc_urls" Codec.stringLossless.list) <|
    .cons (.required "block_explorer_url" Codec.stringLossless) .nil
  exact Record.reversible fields rfl (fun _ => rfl) (fun _ => rfl) fun c _ => by simp

theorem ChainRequest.total : ChainRequest.codec.Total := by
  have fields : ChainRequest.record.fields.Faithful _ _ :=
    .cons (.required "chainId" Codec.stringLossless) <|
    .cons (.required "name" Codec.stringLossless) <|
    .cons (.optional "blockExplorerUrl" Codec.stringLossless nofun) .nil
  exact Record.total fields rfl (fun _ => rfl) (fun _ => rfl) fun p => by simp

theorem ChainRequest.reversible : ChainRequest.codec.Reversible fun _ => True :=
  ChainRequest.total.reversible

def Asset.WholeMetadata (a : Asset) : Prop := ∀ data ∈ a.metadata, ∀ m ∈ data, Json.Whole m.2

theorem Asset.reversible : Asset.codec.Reversible Asset.WholeMetadata := by
  have text := Codec.stringLossless.option nofun
  have fields : Asset.record.fields.Faithful _ _ :=
    .cons (.withDefault "id" Codec.stringLossless fun _ => trivial) <|
    .cons (.required "symbol" Codec.stringLossless) <|
    .cons (.required "name" Codec.stringLossless) <|
    .cons (.required "type" Codec.stringLossless) <|
    .cons (.withDefault "category" text fun _ => nofun) <|
    .cons (.withDefault "description" text fun _ => nofun) <|
    .cons (.withDefault "logo_url" text fun _ => nofun) <|
    .cons (.withDefault "website_url" text fun _ => nofun) <|
    .cons (.withDefault "coingecko_id" text fun _ => nofun) <|
    .cons (.withDefault "metadata" (Codec.objectFaithful.option nofun) fun _ => nofun) .nil
  refine Record.reversible fields rfl (fun _ => rfl) (fun _ => rfl) fun a whole => ?_
  simp only [implies_true, true_and, and_true]
  exact whole

theorem AssetRequest.total : AssetRequest.codec.Total := by
  have fields : AssetRequest.record.fields.Faithful _ _ :=
    .cons (.required "symbol" Codec.stringLossless) <|
    .cons (.required "name" Codec.stringLossless) <|
    .cons (.required "assetType" AssetKind.lossless) <|
    .cons (.optional "category" Codec.stringLossless nofun) <|
    .cons (.optional "description" Codec.stringLossless nofun) <|
    .cons (.optional "logoUrl" Codec.stringLossless nofun) .nil
  exact Record.total fields rfl (fun _ => rfl) (fun _ => rfl) fun p => by simp

theorem AssetRequest.reversible : AssetRequest.codec.Reversible fun _ => True :=
  AssetRequest.total.reversible

theorem Deployment.reversible : Deployment.codec.Reversible fun _ => True := by
  have fields : Deployment.record.fields.Faithful _ _ :=
    .cons (.required "asset_symbol" Codec.stringLossless) <|
    .cons (.required "chain_id" Codec.stringLossless) <|
    .cons (.required "contract_address" Codec.stringLossless) <|
    .cons (.required "decimals" Codec.uint32Lossless) <|
    .cons (.required "is_native" Codec.boolLossless) .nil
  exact Record.reversible fields rfl (fun _ => rfl) (fun _ => rfl) fun d _ => by simp

theorem DeploymentRequest.total : DeploymentRequest.codec.Total := by
  have fields : DeploymentRequest.record.fields.Faithful _ _ :=
    .cons (.required "assetId" Codec.stringLossless) <|
    .cons (.required "chainId" Codec.stringLossless) <|
    .cons (.required "contractAddress" Codec.stringLossless) <|
    .cons (.required "decimals" Codec.uint32Lossless) <|
    .cons (.required "isNative" Codec.boolLossless) .nil
  exact Record.total fields rfl (fun _ => rfl) (fun _ => rfl) fun p => by simp

theorem DeploymentRequest.reversible : DeploymentRequest.codec.Reversible fun _ => True :=
  DeploymentRequest.total.reversible

theorem RegisteredAsset.reversible : RegisteredAsset.codec.Reversible fun _ => True := by
  have fields : RegisteredAsset.record.fields.Faithful _ _ :=
    .cons (.required "assetId" Codec.stringLossless) <|
    .cons (.required "symbol" Codec.stringLossless) .nil
  exact Record.reversible fields rfl (fun _ => rfl) (fun _ => rfl) fun a _ => by simp

theorem Failure.reversible : Failure.codec.Reversible fun _ => True := by
  have fields : Failure.record.fields.Faithful _ _ :=
    .cons (.required "code" Status.lossless) <|
    .cons (.required "message" Codec.stringLossless) .nil
  exact Record.reversible fields rfl (fun _ => rfl) (fun _ => rfl) fun f _ => by simp

theorem ItemFailure.fitsIn :
    ItemFailure.codec.FitsIn 1 (fun _ => True) fun _ => True := by
  have fields : ItemFailure.record.fields.Faithful _ _ :=
    .cons (.required "stage" Stage.lossless) <|
    .cons (.required "key" Codec.stringLossless) <|
    .cons (.required "detail" Codec.stringLossless) .nil
  refine Record.fitsIn fields rfl (fun _ => rfl) (fun _ => rfl) ?_ ?_
  · exact fun f _ => by simp
  · exact fun _ f _ => by simp

theorem ItemFailure.reversible : ItemFailure.codec.Reversible fun _ => True :=
  ItemFailure.fitsIn.reversible

theorem Tally.fitsIn : Tally.codec.FitsIn 3 (fun _ => True) fun _ => True := by
  obtain ⟨good, failure, anywhere⟩ := ItemFailure.fitsIn
  have fields : Tally.record.fields.Faithful _ _ :=
    .cons (.required "stage" Stage.lossless) <|
    .cons (.required "attempted" Codec.uint64Lossless) <|
    .cons (.required "created" Codec.uint64Lossless) <|
    .cons (.required "skippedDuplicate" Codec.uint64Lossless) <|
    .cons (.required "failed" Codec.uint64Lossless) <|
    .cons (.required "failures" failure.list) .nil
  refine Record.fitsIn fields rfl (fun _ => rfl) (fun _ => rfl) ?_ ?_
  · exact fun t _ => by simp
  · intro levels t _
    simp only [true_and, and_true]
    exact ⟨levels + 1, rfl, fun f _ => anywhere levels f trivial⟩

theorem Tally.reversible : Tally.codec.Reversible fun _ => True := Tally.fitsIn.reversible

theorem Abort.fitsIn : Abort.codec.FitsIn 1 (fun _ => True) fun _ => True := by
  have fields : Abort.record.fields.Faithful _ _ :=
    .cons (.required "step" Step.lossless) <|
    .cons (.required "message" Codec.stringLossless) <|
    .cons (.required "cancelled" Codec.boolLossless) .nil
  refine Record.fitsIn fields rfl (fun _ => rfl) (fun _ => rfl) ?_ ?_
  · exact fun a _ => by simp
  · exact fun _ a _ => by simp

theorem Abort.reversible : Abort.codec.Reversible fun _ => True := Abort.fitsIn.reversible

def Outcome.FourDigitYears (o : Outcome) : Prop :=
  o.startedAt.FourDigitYear ∧ ∀ t ∈ o.finishedAt, t.FourDigitYear

def Outcome.ProperTimes (o : Outcome) : Prop := o.startedAt.Proper ∧ ∀ t ∈ o.finishedAt, t.Proper

theorem Outcome.fitsIn : Outcome.codec.FitsIn 5 Outcome.ProperTimes Outcome.FourDigitYears := by
  obtain ⟨_, tally, anyTally⟩ := Tally.fitsIn
  obtain ⟨_, abort, anyAbort⟩ := Abort.fitsIn
  have fields : Outcome.record.fields.Faithful _ _ :=
    .cons (.required "runId" Codec.stringLossless) <|
    .cons (.required "startedAt" Time.Instant.faithful) <|
    .cons (.nullable "finishedAt" Time.Instant.faithful nofun) <|
    .cons (.required "stages" tally.list) <|
    .cons (.nullable "fatal" abort nofun) .nil
  refine Record.fitsIn fields rfl (fun _ => rfl) (fun _ => rfl) (fun o years => ?_) ?_
  · simp only [implies_true, true_and, and_true]
    exact years
  · rintro levels o ⟨started, finished⟩
    simp only [true_and, and_true]
    exact ⟨started, finished, ⟨levels + 3, rfl, fun t _ => anyTally levels t trivial⟩,
      fun a _ => anyAbort (levels + 3) a trivial⟩

theorem Outcome.reversible : Outcome.codec.Reversible Outcome.FourDigitYears :=
  Outcome.fitsIn.reversible

theorem Outcome.summaryForm (o : Outcome) :
    (App.summary .json o).toList = Json.Layout.pretty.value 0 (Outcome.codec.write o) := by
  rw [Json.Layout.valuePretty]
  exact String.toList_ofList

/-- Whatever document a record was read from, the one written of it gives it back. -/
theorem recordsRestored :
    (∀ text c, Chain.codec.decode text = .ok c → Chain.codec.Restores Chain.codec.encode c) ∧
    (∀ text a, Asset.codec.decode text = .ok a → a.WholeMetadata →
      Asset.codec.Restores Asset.codec.encode a) ∧
    (∀ text d, Deployment.codec.decode text = .ok d →
      Deployment.codec.Restores Deployment.codec.encode d) ∧
    (∀ text r, ChainRequest.codec.decode text = .ok r →
      ChainRequest.codec.Restores ChainRequest.codec.encode r) ∧
    (∀ text r, AssetRequest.codec.decode text = .ok r →
      AssetRequest.codec.Restores AssetRequest.codec.encode r) ∧
    (∀ text r, DeploymentRequest.codec.decode text = .ok r →
      DeploymentRequest.codec.Restores DeploymentRequest.codec.encode r) ∧
    (∀ text a, RegisteredAsset.codec.decode text = .ok a →
      RegisteredAsset.codec.Restores RegisteredAsset.codec.encode a) ∧
    (∀ text f, ItemFailure.codec.decode text = .ok f →
      ItemFailure.codec.Restores ItemFailure.codec.encode f) ∧
    (∀ text t, Tally.codec.decode text = .ok t → Tally.codec.Restores Tally.codec.encode t) ∧
    (∀ text a, Abort.codec.decode text = .ok a → Abort.codec.Restores Abort.codec.encode a) ∧
    (∀ text f, Failure.codec.decode text = .ok f →
      Failure.codec.Restores Failure.codec.encode f) ∧
    (∀ text o, Outcome.codec.decode text = .ok o → o.FourDigitYears →
      Outcome.codec.Restores Outcome.codec.encode o ∧
      Outcome.codec.Restores (App.summary .json) o) := by
  refine ⟨?_, ?_, ?_, ?_, ?_, ?_, ?_, ?_, ?_, ?_, ?_, ?_⟩
  · exact fun _ _ came => Chain.reversible.encoded came trivial
  · exact fun _ _ came whole => Asset.reversible.encoded came whole
  · exact fun _ _ came => Deployment.reversible.encoded came trivial
  · exact fun _ _ came => ChainRequest.reversible.encoded came trivial
  · exact fun _ _ came => AssetRequest.reversible.encoded came trivial
  · exact fun _ _ came => DeploymentRequest.reversible.encoded came trivial
  · exact fun _ _ came => RegisteredAsset.reversible.encoded came trivial
  · exact fun _ _ came => ItemFailure.reversible.encoded came trivial
  · exact fun _ _ came => Tally.reversible.encoded came trivial
  · exact fun _ _ came => Abort.reversible.encoded came trivial
  · exact fun _ _ came => Failure.reversible.encoded came trivial
  · intro text o came years
    exact ⟨Outcome.reversible.encoded came years,
      Outcome.reversible.restores .pretty Outcome.summaryForm came years⟩

def looseAsset : String :=
  "\x7b\"type\":\"T\",\"stray\":[1.5,\x7b\x7d],\"metadata\":\x7b\"b\":[-1,\x7b\"\\u00e9\":null\x7d]," ++
  "\"a\":\"\\n\\ud83d\\ude00\",\"b\":[0,true]\x7d,\r\n\"symbol\":\"S\\/\\u0000\",\"name\":\"\"\x7d"

def tidyAsset : Asset :=
  ⟨"", "S/\x00", "", "T", none, none, none, none, none,
    some [("a", .string "\n😀"), ("b", .array [.number (.int 0), .bool true])]⟩

def looseOutcome : String :=
  "\x7b\"stages\":[[\"assets\",18446744073709551615,0,0,0,[]]],\"fatal\":\x7b\"step\":" ++
  "\x7b\"load_chains\":null\x7d,\"message\":\"\",\"cancelled\":true\x7d," ++
  "\"startedAt\":\"2016-12-31 23:59:60.5+01:00\",\"runId\":\"r\"\x7d"

def tidyOutcome : Outcome :=
  ⟨"r", ⟨⟨2016, 12, 31⟩, 82799, 1500000000⟩, none, [⟨.assets, 18446744073709551615, 0, 0, 0, []⟩],
    some ⟨.loadChains, "", true⟩⟩

theorem looseDocumentsRestored :
    Asset.codec.decode looseAsset = .ok tidyAsset ∧ tidyAsset.WholeMetadata ∧
    Asset.codec.Restores Asset.codec.encode tidyAsset ∧
    Asset.codec.encode tidyAsset =
      "\x7b\"id\":\"\",\"symbol\":\"S/\\u0000\",\"name\":\"\",\"type\":\"T\",\"category\":null," ++
      "\"description\":null,\"logo_url\":null,\"website_url\":null,\"coingecko_id\":null," ++
      "\"metadata\":\x7b\"a\":\"\\n😀\",\"b\":[0,true]\x7d\x7d" ∧
    Outcome.codec.decode looseOutcome = .ok tidyOutcome ∧ tidyOutcome.FourDigitYears ∧
    Outcome.codec.Restores (App.summary .json) tidyOutcome ∧
    Outcome.codec.encode tidyOutcome =
      "\x7b\"runId\":\"r\",\"startedAt\":\"2016-12-31T22:59:60.500Z\",\"finishedAt\":null," ++
      "\"stages\":[\x7b\"stage\":\"assets\",\"attempted\":18446744073709551615,\"created\":0," ++
      "\"skippedDuplicate\":0,\"failed\":0,\"failures\":[]\x7d]," ++
      "\"fatal\":\x7b\"step\":\"load_chains\",\"message\":\"\",\"cancelled\":true\x7d\x7d" := by
  obtain ⟨-, assets, -, -, -, -, -, -, -, -, -, outcomes⟩ := recordsRestored
  have asset : Asset.codec.decode looseAsset = .ok tidyAsset := by
    set_option maxRecDepth 4000 in rfl
  have outcome : Outcome.codec.decode looseOutcome = .ok tidyOutcome := by decide +kernel
  have whole : tidyAsset.WholeMetadata := by
    rintro _ ⟨⟩ m inside
    rcases List.mem_cons.mp inside with rfl | inside
    · exact .string _
    · obtain rfl := List.mem_singleton.mp inside
      refine .array fun v inside => ?_
      rcases List.mem_cons.mp inside with rfl | inside
      · exact .int 0
      · obtain rfl := List.mem_singleton.mp inside
        exact .bool true
  have years : tidyOutcome.FourDigitYears := by
    refine ⟨?_, nofun⟩
    unfold Time.Instant.FourDigitYear
    decide
  exact ⟨asset, whole, assets _ _ asset whole, by decide +kernel, outcome, years,
    (outcomes _ _ outcome years).2, by decide +kernel⟩

end RegistrySeeding
