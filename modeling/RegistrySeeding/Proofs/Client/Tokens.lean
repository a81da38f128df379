import RegistrySeeding.Proofs.Client.Paging

/-! The tokens that a listing follows. Only the token of the request before is held against the
next one, so a token may come back once another has been followed: exactly the chains of tokens in
which no two neighbours are equal can be followed to their end. -/
namespace RegistrySeeding.Client

def tokensSeen (sent : List Request) : List String := sent.filterMap fun r => tokenSeen r.body

def Apart (tokens : List String) : Prop :=
  ∀ (k : Nat) (a b : String), tokens[k]? = some a → tokens[k + 1]? = some b → a ≠ b

theorem tokensSent (client : Client) (place : Url × Option String) {tokens : Nat → String}
    (first : tokens 0 = "") {turns : Nat} (more : ∀ turn < turns, tokens (turn + 1) ≠ "") :
    tokensSeen ((List.range (turns + 1)).map fun turn => client.pageRequest place (tokens turn)) =
      (List.range turns).map fun turn => tokens (turn + 1) := by
  have one (token : String) : tokenSeen (client.pageRequest place token).body =
      if token = "" then none else some token := tokenSeenOf _
  unfold tokensSeen
  induction turns with
  | zero => simp [one, first]
  | succ turns ih =>
    rw [List.range_succ, List.map_append, List.filterMap_append,
      ih fun turn before => more turn (by omega), List.range_succ, List.map_append]
    simp [one, more turns]

theorem endsTokens {client : Client} {replies : Nat → Delivery} {last : Nat}
    (reached : client.Reached replies last) (ends : Ends (client.heard replies) last) :
    (client.destination "ListAssets").isOk ∧
      tokensSeen (client.list (.playing replies) []).world =
        (List.range last).map fun turn => tokenSent (client.heard replies) (turn + 1) := by
  rw [(listStopped client replies reached (endsStop ends)).2]
  cases place : client.destination "ListAssets" with
  | error failure =>
    obtain ⟨page, shown, _⟩ := ends
    simp [heard, place, Received.page?] at shown
  | ok place' =>
    rw [askedThere place]
    refine ⟨rfl, tokensSent client place' rfl fun turn before => ?_⟩
    obtain ⟨page, shown, more, _⟩ := reached.2 turn before
    rwa [tokenShown shown]

theorem followedApart {client : Client} {replies : Nat → Delivery} {assets : List RegisteredAsset}
    (listed : (client.list (.playing replies) []).reply = .answered (.ok assets) false) :
    let tokens := tokensSeen (client.list (.playing replies) []).world
    (client.destination "ListAssets").isOk ∧ tokens.length < client.settings.maxPages ∧
      "" ∉ tokens ∧ Apart tokens := by
  obtain ⟨last, reached, ends⟩ := listedEnds listed
  obtain ⟨there, followed⟩ := endsTokens reached ends
  rw [followed]
  refine ⟨there, by simpa using reached.1, ?_, ?_⟩
  · simp only [List.mem_map, List.mem_range, not_exists, not_and]
    intro turn before
    obtain ⟨page, shown, more, _⟩ := reached.2 turn before
    rwa [tokenShown shown]
  · intro k a b first second
    obtain ⟨_, rfl⟩ := atTurn.mp first
    obtain ⟨inside, rfl⟩ := atTurn.mp second
    obtain ⟨page, shown, _, fresh⟩ := reached.2 (k + 1) inside
    rw [tokenShown shown]
    exact fresh.symm

def served (pages : Nat → List Entry × String) (turn : Nat) : Delivery :=
  .response 200 (pageJson (pages turn).1 (pages turn).2).text

theorem servedShown {client : Client} (there : (client.destination "ListAssets").isOk)
    (pages : Nat → List Entry × String) (turn : Nat) :
    (client.heard (served pages) turn).page? =
      some ⟨(pages turn).1.map Entry.asset, (pages turn).2⟩ := by
  obtain ⟨place, there⟩ := placeOf there
  simp [heard, there, served, Received.ofDelivery, Received.page?, succeeded, pageDecodes,
    Except.toOption]

theorem servedReached {client : Client} (there : (client.destination "ListAssets").isOk)
    {pages : Nat → List Entry × String} {last : Nat} (below : last < client.settings.maxPages)
    (more : ∀ turn < last, (pages turn).2 ≠ "")
    (fresh : ∀ turn, turn + 1 < last → (pages (turn + 1)).2 ≠ (pages turn).2) :
    client.Reached (served pages) last := by
  have shown := servedShown there pages
  refine ⟨below, fun turn before => ⟨_, shown turn, more turn before, ?_⟩⟩
  cases turn with
  | zero => exact more 0 before
  | succ turn => simpa [tokenShown (shown turn)] using fresh turn before

theorem servedListing {client : Client} (there : (client.destination "ListAssets").isOk)
    {pages : Nat → List Entry × String} {last : Nat} (reached : client.Reached (served pages) last)
    (ends : (pages last).2 = "") :
    let run := client.list (.playing (served pages)) []
    run.reply = .answered (.ok ((List.range (last + 1)).flatMap fun turn =>
        (pages turn).1.map Entry.registered)) false ∧
      tokensSeen run.world = (List.range last).map fun turn => (pages turn).2 := by
  have shown := servedShown there pages
  have ends : Ends (client.heard (served pages)) last := ⟨_, shown last, ends⟩
  have listed : listedAt (client.heard (served pages)) =
      fun turn => (pages turn).1.map Entry.registered := by
    funext turn
    rw [listedShown (shown turn), Entry.registeredAll]
  have tokens (turn : Nat) : tokenSent (client.heard (served pages)) (turn + 1) =
    (pages turn).2 := tokenShown (shown turn)
  refine ⟨?_, ?_⟩
  · rw [listEnds reached ends, listed]
  · simp only [(endsTokens reached ends).2, tokens]

theorem followable (client : Client) (tokens : List String) :
    (∃ replies assets,
      (client.list (.playing replies) []).reply = .answered (.ok assets) false ∧
      tokensSeen (client.list (.playing replies) []).world = tokens) ↔
    (client.destination "ListAssets").isOk ∧ tokens.length < client.settings.maxPages ∧
      "" ∉ tokens ∧ Apart tokens := by
  constructor
  · rintro ⟨replies, assets, listed, rfl⟩
    exact followedApart listed
  · rintro ⟨there, below, more, apart⟩
    -- Pages that list nothing will do; each gives the next token, and the last one none.
    let pages (turn : Nat) : List Entry × String := ([], tokens.getD turn "")
    have held (turn : Nat) (before : turn < tokens.length) : (pages turn).2 = tokens[turn] := by
      simp [pages, before]
    have reached : client.Reached (served pages) tokens.length := by
      refine servedReached there below (fun turn before => ?_) fun turn before => ?_
      · rw [held turn before]
        exact fun none => more (none ▸ List.getElem_mem before)
      · rw [held (turn + 1) before, held turn (by omega)]
        exact (apart turn _ _ (List.getElem?_eq_getElem (by omega))
          (List.getElem?_eq_getElem before)).symm
    obtain ⟨listed, seen⟩ := servedListing there reached (by simp [pages])
    refine ⟨served pages, _, listed, seen.trans (List.ext_getElem (by simp) fun turn _ before => ?_)⟩
    rw [List.getElem_map, List.getElem_range, held turn before]

theorem cycleApart : Apart ["A", "B", "A"] := by
  intro k a b first second
  match k with
  | 0 | 1 =>
    simp at first second
    subst first second
    decide
  | k + 2 => simp at second

theorem pairDistinct {tokens : List String} (short : tokens.length ≤ 2) (apart : Apart tokens) :
    tokens.Nodup := by
  match tokens with
  | [] => exact .nil
  | [a] => simp
  | [a, b] => simpa using apart 0 a b rfl rfl
  | _ :: _ :: _ :: _ => simp at short

/-- Every repetition is caught exactly where no more than three pages may be asked for. -/
theorem repetitionsCaught (client : Client) :
    (∀ replies assets,
      (client.list (.playing replies) []).reply = .answered (.ok assets) false →
      (tokensSeen (client.list (.playing replies) []).world).Nodup) ↔
    ((client.destination "ListAssets").isOk → client.settings.maxPages ≤ 3) := by
  constructor
  · intro distinct there
    false_or_by_contra
    rename_i many
    obtain ⟨replies, assets, listed, seen⟩ := (followable client ["A", "B", "A"]).mpr
      ⟨there, by simpa using many, by decide, cycleApart⟩
    have twice := distinct replies assets listed
    rw [seen] at twice
    exact absurd twice (by decide)
  · intro few replies assets listed
    obtain ⟨there, below, _, apart⟩ := followedApart listed
    have few := few there
    exact pairDistinct (by omega) apart

def cycle : Nat → List Entry × String
  | 0 => ([.plain ⟨"a-0", "S0"⟩], "A")
  | 1 => ([.plain ⟨"a-1", "S1"⟩], "B")
  | 2 => ([.plain ⟨"a-2", "S2"⟩], "A")
  | _ => ([.plain ⟨"a-1", "S1"⟩], "")

theorem cycleListed :
    let run := Client.list ⟨"http://[::1]:8080", none, {}, .basic⟩ (.playing (served cycle)) []
    run.reply = .answered
      (.ok [⟨"a-0", "S0"⟩, ⟨"a-1", "S1"⟩, ⟨"a-2", "S2"⟩, ⟨"a-1", "S1"⟩]) false ∧
    tokensSeen run.world = ["A", "B", "A"] ∧ ¬(tokensSeen run.world).Nodup := by
  have there : (Client.destination ⟨"http://[::1]:8080", none, {}, .basic⟩ "ListAssets").isOk := by
    decide +kernel
  have reached : Client.Reached ⟨"http://[::1]:8080", none, {}, .basic⟩ (served cycle) 3 :=
    servedReached there (by decide) (by decide) fun turn before => by
      match turn with
      | 0 | 1 => decide
  obtain ⟨listed, seen⟩ := servedListing there reached rfl
  exact ⟨listed, seen, by rw [seen]; decide⟩

end RegistrySeeding.Client
