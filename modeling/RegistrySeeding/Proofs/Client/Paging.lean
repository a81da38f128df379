import RegistrySeeding.Proofs.Client.Wire

/-! A listing turn by turn. What the client hears decides each turn alone: it leads on to the next
page, or it closes the listing. The turns that are taken, the requests they send and the answer all
follow from where the first turn stands that does not lead on. -/
namespace RegistrySeeding

def Transport.playing (replies : Nat → Delivery) : Transport (List Request) where
  send request sent := (replies sent.length, sent ++ [request])

namespace Client

def heard (client : Client) (replies : Nat → Delivery) (turn : Nat) : Received :=
  match client.destination "ListAssets" with
  | .error failure => .failed failure
  | .ok (url, _) => .ofDelivery url (replies turn)

def pageRequest (client : Client) (place : Url × Option String) (token : String) : Request :=
  ⟨place.1, place.2, (PageRequest.mk client.settings.pageSize token).json.text,
    client.settings.timeoutMs⟩

def asked (client : Client) (token : String) : List Request :=
  match client.destination "ListAssets" with
  | .error _ => []
  | .ok place => [client.pageRequest place token]

theorem callPlayed (client : Client) (replies : Nat → Delivery) (token : String)
    (sent : List Request) :
    client.call (.playing replies) "ListAssets"
        (PageRequest.mk client.settings.pageSize token).json sent =
      (client.heard replies sent.length, sent ++ client.asked token) := by
  unfold call heard asked
  cases client.destination "ListAssets" with
  | error failure => simp
  | ok place => rfl

def Received.page? : Received → Option Page
  | .response status body =>
    if succeeded status then (Page.record.codec.decode body).toOption else none
  | _ => none

section Turns
variable (heard : Nat → Received)

def pageBefore : Nat → Option Page
  | 0 => none
  | before + 1 => (heard before).page?

def tokenSent (turn : Nat) : String := ((pageBefore heard turn).map Page.nextPageToken).getD ""

def listedAt (turn : Nat) : List RegisteredAsset :=
  (((heard turn).page?.map Page.assets).getD []).map ListedAsset.registered

def LeadsOn (turn : Nat) : Prop :=
  ∃ page, (heard turn).page? = some page ∧ page.nextPageToken ≠ "" ∧
    page.nextPageToken ≠ tokenSent heard turn

def Ends (turn : Nat) : Prop :=
  ∃ page, (heard turn).page? = some page ∧ page.nextPageToken = ""

def Cancels (turn : Nat) : Prop :=
  ∃ status body, heard turn = .response status body ∧ succeeded status = false ∧
    (errorStatus status body).1 = .canceled

def closing (listed : List RegisteredAsset) (turn : Nat) : Reply (List RegisteredAsset) :=
  match heard turn with
  | .interrupted => .abandoned
  | .failed failure => .answered (.error (.registry failure.text)) false
  | .response status body =>
    match readPage status body with
    | .error e => .answered (.error e) false
    | .ok page =>
      .answered (if page.nextPageToken.isEmpty
        then .ok (listed ++ page.assets.map ListedAsset.registered) else .error stuck) false

end Turns

theorem pageRead {received : Received} {page : Page} : received.page? = some page ↔
    ∃ status body, received = .response status body ∧ readPage status body = .ok page := by
  constructor
  · intro shown
    cases received with
    | response status body =>
      refine ⟨status, body, rfl, ?_⟩
      simp only [Received.page?] at shown
      split at shown
      · rename_i good
        cases read : Page.record.codec.decode body <;>
          simp_all [Except.toOption, readPage]
      · contradiction
    | failed failure => simp [Received.page?] at shown
    | interrupted => simp [Received.page?] at shown
  · rintro ⟨status, body, rfl, read⟩
    unfold readPage at read
    split at read
    · rename_i good
      cases decoded : Page.record.codec.decode body <;>
        simp_all [Received.page?, Except.toOption]
    · contradiction

theorem listedShown {heard : Nat → Received} {turn : Nat} {page : Page}
    (shown : (heard turn).page? = some page) :
    listedAt heard turn = page.assets.map ListedAsset.registered := by
  simp [listedAt, shown]

theorem tokenShown {heard : Nat → Received} {turn : Nat} {page : Page}
    (shown : (heard turn).page? = some page) : tokenSent heard (turn + 1) = page.nextPageToken := by
  simp [tokenSent, pageBefore, shown]

section Closing
variable {heard : Nat → Received} {turn : Nat}

theorem endsStop (ends : Ends heard turn) : ¬LeadsOn heard turn := by
  rintro ⟨page, shown, more, _⟩
  obtain ⟨last, same, token⟩ := ends
  cases Option.some.inj (same.symm.trans shown)
  exact more token

theorem cancelsStop (cancels : Cancels heard turn) : ¬LeadsOn heard turn := by
  rintro ⟨page, shown, _⟩
  obtain ⟨status, body, received, bad, _⟩ := cancels
  simp [received, Received.page?, bad] at shown

theorem interruptedStops (interrupted : heard turn = .interrupted) : ¬LeadsOn heard turn := by
  rintro ⟨page, shown, _⟩
  simp [interrupted, Received.page?] at shown

theorem closingEnds (listed : List RegisteredAsset) (ends : Ends heard turn) :
    closing heard listed turn = .answered (.ok (listed ++ listedAt heard turn)) false := by
  obtain ⟨page, shown, last⟩ := ends
  obtain ⟨status, body, received, read⟩ := pageRead.mp shown
  rw [listedShown shown]
  simp [closing, received, read, last]

theorem closingCancels (listed : List RegisteredAsset) (cancels : Cancels heard turn) :
    closing heard listed turn = .answered (.error .cancelled) false := by
  obtain ⟨status, body, received, bad, code⟩ := cancels
  simp [closing, received, readPage, bad, listFailure, code]

theorem closingInterrupted (listed : List RegisteredAsset) (interrupted : heard turn = .interrupted) :
    closing heard listed turn = .abandoned := by
  simp [closing, interrupted]

theorem closingFails (listed : List RegisteredAsset) (more : ¬Ends heard turn)
    (going : ¬Cancels heard turn) (whole : heard turn ≠ .interrupted) :
    ∃ detail, closing heard listed turn = .answered (.error (.registry detail)) false := by
  unfold closing
  cases received : heard turn with
  | interrupted => exact absurd received whole
  | failed failure => exact ⟨failure.text, rfl⟩
  | response status body =>
    cases good : succeeded status with
    | false =>
      have code : (errorStatus status body).1 ≠ .canceled := fun code =>
        going ⟨status, body, received, good, code⟩
      simp [readPage, good, listFailure, code]
    | true =>
      cases decoded : Page.record.codec.decode body with
      | error fault => simp [readPage, good, decoded]
      | ok page =>
        have shown : (heard turn).page? = some page := by
          simp [received, Received.page?, good, decoded, Except.toOption]
        have more : page.nextPageToken ≠ "" := fun last => more ⟨page, shown, last⟩
        simp [readPage, good, decoded, more, stuck]

end Closing

theorem pagesLead (client : Client) (replies : Nat → Delivery) (left : Nat) {turn : Nat}
    (listed : List RegisteredAsset) {sent : List Request} (count : sent.length = turn)
    (leads : LeadsOn (client.heard replies) turn) :
    let token := tokenSent (client.heard replies)
    let now := client.pages (.playing replies) (left + 1) turn (token turn) listed sent
    let later := client.pages (.playing replies) left (turn + 1) (token (turn + 1))
      (listed ++ listedAt (client.heard replies) turn) (sent ++ client.asked (token turn))
    now.reply = later.reply ∧ now.world = later.world := by
  obtain ⟨page, shown, more, fresh⟩ := leads
  obtain ⟨status, body, received, read⟩ := pageRead.mp shown
  simp only [pages, callPlayed, count, received, read]
  rw [if_neg (by simpa using more), if_neg fresh, tokenShown shown, listedShown shown]
  exact ⟨rfl, rfl⟩

theorem pagesClose (client : Client) (replies : Nat → Delivery) (left : Nat) {turn : Nat}
    (listed : List RegisteredAsset) {sent : List Request} (count : sent.length = turn)
    (stops : ¬LeadsOn (client.heard replies) turn) :
    let token := tokenSent (client.heard replies)
    let now := client.pages (.playing replies) (left + 1) turn (token turn) listed sent
    now.reply = closing (client.heard replies) listed turn ∧
      now.world = sent ++ client.asked (token turn) := by
  simp only [pages, callPlayed, count, closing]
  cases received : client.heard replies turn with
  | interrupted => exact ⟨rfl, rfl⟩
  | failed failure => exact ⟨rfl, rfl⟩
  | response status body =>
    dsimp only
    cases read : readPage status body with
    | error e => exact ⟨rfl, rfl⟩
    | ok page =>
      have shown := pageRead.mpr ⟨status, body, rfl, read⟩
      rw [← received] at shown
      by_cases last : page.nextPageToken = ""
      · simp [last]
      · have same : page.nextPageToken = tokenSent (client.heard replies) turn :=
          Classical.byContradiction fun fresh => stops ⟨page, shown, last, fresh⟩
        simp [last, ← same]

theorem leadsAsk (client : Client) (replies : Nat → Delivery) {turn : Nat}
    (leads : LeadsOn (client.heard replies) turn) (token : String) :
    (client.asked token).length = 1 := by
  obtain ⟨page, shown, _⟩ := leads
  cases place : client.destination "ListAssets" with
  | error failure => simp [heard, place, Received.page?] at shown
  | ok place' => simp [asked, place]

theorem followed (client : Client) (replies : Nat → Delivery) (left turns : Nat)
    (leads : ∀ turn < turns, LeadsOn (client.heard replies) turn) :
    let token := tokenSent (client.heard replies)
    let all := client.pages (.playing replies) (left + turns) 0 "" [] []
    let sent := (List.range turns).flatMap fun turn => client.asked (token turn)
    let later := client.pages (.playing replies) left turns (token turns)
      ((List.range turns).flatMap (listedAt (client.heard replies))) sent
    all.reply = later.reply ∧ all.world = later.world ∧ sent.length = turns := by
  -- On the turns taken: a turn that leads on has sent one request, so the next reply is its own.
  induction turns generalizing left with
  | zero => exact ⟨rfl, rfl, rfl⟩
  | succ turns ih =>
    obtain ⟨replied, went, count⟩ := ih (left + 1) fun turn before => leads turn (by omega)
    have last := leads turns (by omega)
    have step := pagesLead client replies left
      ((List.range turns).flatMap (listedAt (client.heard replies))) count last
    have one := leadsAsk client replies last (tokenSent (client.heard replies) turns)
    simp only [List.range_succ, List.flatMap_append, List.flatMap_cons, List.flatMap_nil,
      List.append_nil, List.length_append]
    rw [show left + (turns + 1) = left + 1 + turns by omega]
    exact ⟨replied.trans step.1, went.trans step.2, by omega⟩

def Reached (client : Client) (replies : Nat → Delivery) (turn : Nat) : Prop :=
  turn < client.settings.maxPages ∧ ∀ earlier < turn, LeadsOn (client.heard replies) earlier

theorem limitOrStop (client : Client) (replies : Nat → Delivery) :
    (∀ turn < client.settings.maxPages, LeadsOn (client.heard replies) turn) ∨
      ∃ turn, client.Reached replies turn ∧ ¬LeadsOn (client.heard replies) turn := by
  unfold Reached
  generalize client.settings.maxPages = limit
  induction limit with
  | zero => exact .inl fun turn below => absurd below (Nat.not_lt_zero turn)
  | succ limit ih =>
    rcases ih with leads | ⟨turn, ⟨below, before⟩, stops⟩
    · by_cases last : LeadsOn (client.heard replies) limit
      · refine .inl fun turn below => ?_
        rcases Nat.lt_succ_iff_lt_or_eq.mp below with below | rfl
        · exact leads turn below
        · exact last
      · exact .inr ⟨limit, ⟨Nat.lt_succ_self limit, leads⟩, last⟩
    · exact .inr ⟨turn, ⟨Nat.lt_succ_of_lt below, before⟩, stops⟩

theorem listLimited (client : Client) (replies : Nat → Delivery)
    (leads : ∀ turn < client.settings.maxPages, LeadsOn (client.heard replies) turn) :
    let run := client.list (.playing replies) []
    run.reply = .answered (.error client.tooManyPages) false ∧
      run.world = (List.range client.settings.maxPages).flatMap fun turn =>
        client.asked (tokenSent (client.heard replies) turn) := by
  obtain ⟨replied, went, _⟩ := followed client replies 0 client.settings.maxPages leads
  rw [Nat.zero_add] at replied went
  exact ⟨replied, went⟩

theorem listStopped (client : Client) (replies : Nat → Delivery) {turn : Nat}
    (reached : client.Reached replies turn) (stops : ¬LeadsOn (client.heard replies) turn) :
    let run := client.list (.playing replies) []
    run.reply = closing (client.heard replies)
        ((List.range turn).flatMap (listedAt (client.heard replies))) turn ∧
      run.world = (List.range (turn + 1)).flatMap fun turn =>
        client.asked (tokenSent (client.heard replies) turn) := by
  obtain ⟨left, enough⟩ : ∃ left, client.settings.maxPages = left + 1 + turn :=
    ⟨client.settings.maxPages - turn - 1, by have := reached.1; omega⟩
  obtain ⟨replied, went, count⟩ := followed client replies (left + 1) turn reached.2
  obtain ⟨closed, kept⟩ := pagesClose client replies left _ count stops
  rw [← enough] at replied went
  refine ⟨replied.trans closed, (went.trans kept).trans ?_⟩
  simp [List.range_succ]

theorem listSent (client : Client) (replies : Nat → Delivery) : ∃ taken,
    (client.list (.playing replies) []).world = ((List.range taken).flatMap fun turn =>
      client.asked (tokenSent (client.heard replies) turn)) ∧
    ∀ turn, turn < taken ↔ client.Reached replies turn := by
  rcases limitOrStop client replies with leads | ⟨last, reached, stops⟩
  · refine ⟨client.settings.maxPages, (listLimited client replies leads).2, fun turn => ?_⟩
    exact ⟨fun below => ⟨below, fun earlier before => leads earlier (by omega)⟩, And.left⟩
  · refine ⟨last + 1, (listStopped client replies reached stops).2, fun turn => ?_⟩
    constructor
    · intro below
      exact ⟨by have := reached.1; omega, fun earlier before => reached.2 earlier (by omega)⟩
    · intro taken
      rcases Nat.lt_or_ge last turn with after | before
      · exact absurd (taken.2 last after) stops
      · omega

theorem listEnds {client : Client} {replies : Nat → Delivery} {last : Nat}
    (reached : client.Reached replies last) (ends : Ends (client.heard replies) last) :
    (client.list (.playing replies) []).reply =
      .answered (.ok ((List.range (last + 1)).flatMap (listedAt (client.heard replies)))) false := by
  rw [(listStopped client replies reached (endsStop ends)).1, closingEnds _ ends]
  simp [List.range_succ]

theorem listCancels {client : Client} {replies : Nat → Delivery} {bad : Nat}
    (reached : client.Reached replies bad) (cancels : Cancels (client.heard replies) bad) :
    (client.list (.playing replies) []).reply = .answered (.error .cancelled) false := by
  rw [(listStopped client replies reached (cancelsStop cancels)).1, closingCancels _ cancels]

theorem listInterrupted {client : Client} {replies : Nat → Delivery} {turn : Nat}
    (reached : client.Reached replies turn) (interrupted : client.heard replies turn = .interrupted) :
    (client.list (.playing replies) []).reply = .abandoned := by
  rw [(listStopped client replies reached (interruptedStops interrupted)).1,
    closingInterrupted _ interrupted]

theorem listCloses (client : Client) (replies : Nat → Delivery) :
    let reply := (client.list (.playing replies) []).reply
    (∃ last, client.Reached replies last ∧ Ends (client.heard replies) last ∧ reply =
      .answered (.ok ((List.range (last + 1)).flatMap (listedAt (client.heard replies)))) false) ∨
    (∃ bad, client.Reached replies bad ∧ Cancels (client.heard replies) bad ∧
      reply = .answered (.error .cancelled) false) ∨
    (∃ turn, client.Reached replies turn ∧ client.heard replies turn = .interrupted ∧
      reply = .abandoned) ∨
    ∃ detail, reply = .answered (.error (.registry detail)) false := by
  rcases limitOrStop client replies with leads | ⟨turn, reached, stops⟩
  · exact .inr (.inr (.inr ⟨_, (listLimited client replies leads).1⟩))
  · by_cases ends : Ends (client.heard replies) turn
    · exact .inl ⟨turn, reached, ends, listEnds reached ends⟩
    by_cases cancels : Cancels (client.heard replies) turn
    · exact .inr (.inl ⟨turn, reached, cancels, listCancels reached cancels⟩)
    by_cases interrupted : client.heard replies turn = .interrupted
    · exact .inr (.inr (.inl ⟨turn, reached, interrupted, listInterrupted reached interrupted⟩))
    · simp only [(listStopped client replies reached stops).1]
      exact .inr (.inr (.inr (closingFails _ ends cancels interrupted)))

theorem listedEnds {client : Client} {replies : Nat → Delivery} {assets : List RegisteredAsset}
    (listed : (client.list (.playing replies) []).reply = .answered (.ok assets) false) :
    ∃ last, client.Reached replies last ∧ Ends (client.heard replies) last := by
  rcases listCloses client replies with ⟨last, reached, ends, _⟩ | ⟨_, _, _, same⟩ |
    ⟨_, _, _, same⟩ | ⟨_, same⟩
  case inl => exact ⟨last, reached, ends⟩
  all_goals cases same.symm.trans listed

theorem atTurn {α : Type} {f : Nat → α} {turns turn : Nat} {x : α} :
    ((List.range turns).map f)[turn]? = some x ↔ turn < turns ∧ f turn = x := by
  rw [List.getElem?_eq_some_iff]
  simp

theorem askedNowhere {client : Client} {failure : Failure}
    (place : client.destination "ListAssets" = .error failure) (taken : Nat)
    (tokens : Nat → String) :
    ((List.range taken).flatMap fun turn => client.asked (tokens turn)) = [] := by
  simp [Client.asked, place]

theorem askedThere {client : Client} {place : Url × Option String}
    (there : client.destination "ListAssets" = .ok place) (taken : Nat) (tokens : Nat → String) :
    ((List.range taken).flatMap fun turn => client.asked (tokens turn)) =
      (List.range taken).map fun turn => client.pageRequest place (tokens turn) := by
  simp only [Client.asked, there]
  exact List.map_eq_flatMap.symm

end Client
end RegistrySeeding
