import RegistrySeeding.Proofs.Client.Wire

/-! A server that pages through a fixed list, with the decimal index of the first entry not yet
sent for a token, and the client in front of it. The position it has come to is the measure of the
loop: it grows by a page each turn, and the token that spells it is read back as the same number. -/
namespace RegistrySeeding
open Client

theorem Text.hexOfDigit {c : Char} (digit : c.isDigit = true) :
    hexDigit? c = some (c.toNat - '0'.toNat) ∧ c.toNat - '0'.toNat < 10 := by
  have bounds : '0' ≤ c ∧ c ≤ '9' := by
    simp only [Char.isDigit, Bool.and_eq_true, decide_eq_true_eq] at digit
    exact digit
  refine ⟨by rw [hexDigit?, if_pos bounds], ?_⟩
  have high : c.toNat ≤ '9'.toNat := bounds.2
  have nine : '9'.toNat = '0'.toNat + 9 := rfl
  omega

theorem Text.numeralOfDigits {cs : List Char} (digits : ∀ c ∈ cs, c.isDigit = true) (n : Nat) :
    cs.foldlM (fun n c => do
      let d ← hexDigit? c
      if d < 10 then some (n * 10 + d) else none) n = some (Nat.ofDigitChars 10 cs n) := by
  induction cs generalizing n with
  | nil => rfl
  | cons c cs ih =>
    obtain ⟨read, small⟩ := hexOfDigit (digits c List.mem_cons_self)
    have later := ih (fun x inside => digits x (List.mem_cons_of_mem c inside))
      (10 * n + (c.toNat - '0'.toNat))
    rw [List.foldlM_cons, read, Option.bind_eq_bind, Option.bind_some, if_pos small, Nat.mul_comm n]
    exact later.trans (by rw [Nat.ofDigitChars_cons])

theorem Text.decimalRead (n : Nat) : numeral? 10 (Nat.toDigits 10 n) = some n := by
  have digits (c : Char) (inside : c ∈ Nat.toDigits 10 n) : c.isDigit = true :=
    Nat.isDigit_of_mem_toDigits (by omega) (by omega) inside
  exact (numeralOfDigits digits 0).trans (by rw [Nat.ofDigitChars_ten_toDigits])

def sizeSeen (body : String) : Nat :=
  match bodyMember? "pageSize" body with
  | some (.number (.int (.ofNat size))) => size
  | _ => 500

def startSeen (body : String) : Nat :=
  ((tokenSeen body).bind fun token => Text.numeral? 10 token.toList).getD 0

def tokenAfter (entries : List Entry) (next : Nat) : String :=
  if next < entries.length then toString next else ""

def pageFrom (entries : List Entry) (size start : Nat) : Json :=
  let page := (entries.drop start).take size
  pageJson page (tokenAfter entries (start + page.length))

/-- The server; it keeps what it was sent. -/
def Transport.paging (entries : List Entry) : Transport (List Request) where
  send request sent :=
    (.response 200 (pageFrom entries (sizeSeen request.body) (startSeen request.body)).text,
      sent ++ [request])

def pagesNeeded (count size : Nat) : Nat := max 1 ((count + size - 1) / size)

theorem neededLast {count size : Nat} (positive : 0 < size) (last : count ≤ size) :
    pagesNeeded count size = 1 := by
  have few : (count + size - 1) / size < 2 := Nat.div_lt_of_lt_mul (by omega)
  unfold pagesNeeded
  omega

theorem neededMore {count size : Nat} (positive : 0 < size) (more : size < count) :
    pagesNeeded count size = pagesNeeded (count - size) size + 1 := by
  have split : (count + size - 1) / size = (count - size + size - 1) / size + 1 := by
    rw [← Nat.add_div_right _ positive, show count - size + size - 1 + size = count + size - 1 by omega]
  have rest : 1 ≤ (count - size + size - 1) / size := (Nat.one_le_div_iff positive).mpr (by omega)
  unfold pagesNeeded
  omega

theorem sizeSeenOf (r : PageRequest) : sizeSeen r.json.text = r.pageSize.toNat := by
  rw [sizeSeen, sizeFound]

def tokenOf (start : Nat) : String := if start = 0 then "" else toString start

theorem startSeenOf (size : UInt32) (start : Nat) :
    startSeen (PageRequest.mk size (tokenOf start)).json.text = start := by
  rw [startSeen, tokenSeenOf]
  by_cases first : start = 0
  · simp [tokenOf, first]
  · simp [tokenOf, first, Text.decimalRead]

theorem tokenOfFresh {a b : Nat} (grown : a < b) : toString b ≠ tokenOf a := by
  intro same
  unfold tokenOf at same
  split at same
  · simp at same
  · have digits := congrArg String.toList same
    simp only [Nat.toString_eq_ofList_toDigits, String.toList_ofList] at digits
    have read := Text.decimalRead b
    rw [digits, Text.decimalRead] at read
    cases read
    omega

section Paging
variable {client : Client} {entries : List Entry}

theorem pageRead? (size start : Nat) : readPage 200 (pageFrom entries size start).text =
    .ok ⟨((entries.drop start).take size).map Entry.asset,
      tokenAfter entries (start + ((entries.drop start).take size).length)⟩ := by
  simp [readPage, succeeded, pageFrom, pageDecodes]

theorem pagingCall (there : (client.destination "ListAssets").isOk) (start : Nat)
    (sent : List Request) : ∃ request,
      client.call (.paging entries) "ListAssets"
          (PageRequest.mk client.settings.pageSize (tokenOf start)).json sent =
        (.response 200 (pageFrom entries client.settings.pageSize.toNat start).text,
          sent ++ [request]) := by
  obtain ⟨place, there⟩ := placeOf there
  simp [call, there, Transport.paging, Received.ofDelivery, sizeSeenOf, startSeenOf]

theorem pagingLast (there : (client.destination "ListAssets").isOk) (left number : Nat) {start : Nat}
    (last : entries.length - start ≤ client.settings.pageSize.toNat)
    (listed : List RegisteredAsset) (sent : List Request) :
    let run := client.pages (.paging entries) (left + 1) number (tokenOf start) listed sent
    run.reply = .answered
        (.ok (listed ++ (entries.drop start).map Entry.registered)) false ∧
      run.world.length = sent.length + 1 := by
  obtain ⟨request, called⟩ := @pagingCall client entries there start sent
  have whole : (entries.drop start).take client.settings.pageSize.toNat = entries.drop start :=
    List.take_of_length_le (by simpa using last)
  have none : tokenAfter entries (start + (entries.drop start).length) = "" :=
    if_neg (by simp only [List.length_drop]; omega)
  simp only [pages, called, pageRead?, whole, none, Entry.registeredAll]
  rw [if_pos (by rfl)]
  exact ⟨rfl, List.length_append⟩

theorem pagingMore (there : (client.destination "ListAssets").isOk)
    (positive : 0 < client.settings.pageSize.toNat) (left number : Nat) {start : Nat}
    (more : client.settings.pageSize.toNat < entries.length - start)
    (listed : List RegisteredAsset) (sent : List Request) :
    let next := start + client.settings.pageSize.toNat
    let page := (entries.drop start).take client.settings.pageSize.toNat
    let run := client.pages (.paging entries) (left + 1) number (tokenOf start) listed sent
    ∃ request,
      let later := client.pages (.paging entries) left (number + 1) (tokenOf next)
        (listed ++ page.map Entry.registered) (sent ++ [request])
      run.reply = later.reply ∧ run.world = later.world := by
  obtain ⟨request, called⟩ := @pagingCall client entries there start sent
  have full : ((entries.drop start).take client.settings.pageSize.toNat).length =
      client.settings.pageSize.toNat := by
    simp only [List.length_take, List.length_drop]
    omega
  have token : tokenAfter entries (start + client.settings.pageSize.toNat) =
      toString (start + client.settings.pageSize.toNat) := if_pos (by omega)
  have next : tokenOf (start + client.settings.pageSize.toNat) =
      toString (start + client.settings.pageSize.toNat) := if_neg (by omega)
  have fresh : toString (start + client.settings.pageSize.toNat) ≠ tokenOf start :=
    tokenOfFresh (by omega)
  refine ⟨request, ?_⟩
  simp only [pages, called, pageRead?, full, token, next, Entry.registeredAll]
  rw [if_neg (by simp), if_neg fresh]
  exact ⟨rfl, rfl⟩

theorem pagingFrom (there : (client.destination "ListAssets").isOk)
    (positive : 0 < client.settings.pageSize.toNat) (left number start : Nat)
    (listed : List RegisteredAsset) (sent : List Request) :
    let run := client.pages (.paging entries) left number (tokenOf start) listed sent
    let needed := pagesNeeded (entries.length - start) client.settings.pageSize.toNat
    run.reply = .answered (if needed ≤ left
        then .ok (listed ++ (entries.drop start).map Entry.registered)
        else .error client.tooManyPages) false ∧
      run.world.length = sent.length + min needed left := by
  -- Where entries are left over, the next turn starts a page further on and needs one page less.
  induction left generalizing number start listed sent with
  | zero =>
    have least : 1 ≤ pagesNeeded (entries.length - start) client.settings.pageSize.toNat :=
      Nat.le_max_left ..
    dsimp only
    rw [if_neg (by omega), Nat.min_zero]
    exact ⟨rfl, rfl⟩
  | succ left ih =>
    rcases Nat.lt_or_ge client.settings.pageSize.toNat (entries.length - start) with more | last
    · obtain ⟨request, replied, went⟩ := pagingMore there positive left number more listed sent
      obtain ⟨again, count⟩ := ih (number + 1) (start + client.settings.pageSize.toNat)
        (listed ++ ((entries.drop start).take client.settings.pageSize.toNat).map
          Entry.registered) (sent ++ [request])
      have split := neededMore positive more
      rw [Nat.sub_sub] at split
      refine ⟨replied.trans (again.trans ?_), ?_⟩
      · rw [split, List.append_assoc, ← List.map_append, ← List.drop_drop, List.take_append_drop]
        simp only [Nat.add_le_add_iff_right]
      · rw [went, count, split, List.length_append, List.length_singleton]
        omega
    · have one := neededLast positive last
      obtain ⟨replied, count⟩ := pagingLast there left number last listed sent
      dsimp only
      rw [one, if_pos (by omega), count, Nat.min_eq_left (by omega)]
      exact ⟨replied, rfl⟩

theorem limitNotStuck (client : Client) : client.tooManyPages ≠ stuck := by
  intro same
  injection same with same
  have texts := congrArg (fun s : String => s.toList.take 12) same
  simp only [String.toList_append, List.append_assoc] at texts
  rw [List.take_append_of_le_length (by decide)] at texts
  exact absurd texts (by decide)

theorem pagingServerListed (client : Client) (entries : List Entry)
    (positive : 0 < client.settings.pageSize.toNat)
    (there : (client.destination "ListAssets").isOk) :
    let run := client.list (.paging entries) []
    let needed := pagesNeeded entries.length client.settings.pageSize.toNat
    run.reply = .answered (if needed ≤ client.settings.maxPages
        then .ok (entries.map Entry.registered) else .error client.tooManyPages) false ∧
      run.world.length = min needed client.settings.maxPages ∧
      run.reply ≠ .answered (.error stuck) false := by
  obtain ⟨replied, count⟩ :=
    @pagingFrom client entries there positive client.settings.maxPages 0 0 [] []
  rw [Nat.sub_zero] at replied count
  refine ⟨replied, count.trans (Nat.zero_add _), fun never => ?_⟩
  have same := never.symm.trans replied
  split at same
  · cases same
  · injection same with same
    injection same with same
    exact limitNotStuck client same.symm

def mixedEntries : List Entry :=
  [.plain ⟨"a-1", "ETH"⟩,
   { asset := ⟨"a-2", "ΩUSD"⟩
     members := [("decimals", .number (.int 6)), ("symbol", .string "ΩUSD"),
       ("tags", .array [.null, .object [("id", .bool true)]]), ("assetId", .string "a-2")]
     idName := "assetId"
     named := .inr rfl
     shown := .inr rfl },
   .plain ⟨"a-3", "SOL"⟩]

theorem mixedEntriesListed :
    let client : Client := ⟨"http://[::1]:8080", none, { pageSize := 2, maxPages := 2 }, .basic⟩
    let run := client.list (.paging mixedEntries) []
    0 < client.settings.pageSize.toNat ∧ (client.destination "ListAssets").isOk ∧
      run.reply = .answered (.ok [⟨"a-1", "ETH"⟩, ⟨"a-2", "ΩUSD"⟩, ⟨"a-3", "SOL"⟩]) false ∧
      run.world.length = 2 := by
  have there : (Client.destination ⟨"http://[::1]:8080", none, { pageSize := 2, maxPages := 2 }, .basic⟩
      "ListAssets").isOk := by decide +kernel
  obtain ⟨replied, count, _⟩ := pagingServerListed
    ⟨"http://[::1]:8080", none, { pageSize := 2, maxPages := 2 }, .basic⟩ mixedEntries (by decide) there
  exact ⟨by decide, there, replied, count⟩

end Paging
end RegistrySeeding
