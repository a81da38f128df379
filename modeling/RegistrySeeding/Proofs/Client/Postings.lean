import RegistrySeeding.Client.Basic

/-! What leaves the program, whatever comes back. A call posts its document once, or not at all
where it has no destination; a listing posts requests for pages only. -/
namespace RegistrySeeding

variable {σ : Type}

def Transport.kept (transport : Transport σ) : Transport (σ × List Request) where
  send request world :=
    let (delivery, after) := transport.send request world.1
    (delivery, after, world.2 ++ [request])

def Transport.silent : Transport Unit := ⟨fun _ world => (.lost .unanswered, world)⟩

namespace Client

def posting (client : Client) (method : String) (body : Json) : List Request :=
  match client.destination method with
  | .error _ => []
  | .ok (url, authorization) => [⟨url, authorization, body.text, client.settings.timeoutMs⟩]

theorem postingMember {client : Client} {method : String} {body : Json} {request : Request}
    (posted : request ∈ client.posting method body) :
    ∃ url authorization, client.destination method = .ok (url, authorization) ∧
      request = ⟨url, authorization, body.text, client.settings.timeoutMs⟩ := by
  unfold posting at posted
  cases place : client.destination method with
  | error failure => simp [place] at posted
  | ok there => exact ⟨there.1, there.2, rfl, by simpa [place] using posted⟩

theorem postingLength (client : Client) (method : String) (body : Json) :
    (client.posting method body).length = if (client.destination method).isOk then 1 else 0 := by
  unfold posting
  cases client.destination method <;> rfl

theorem callPosts (client : Client) (transport : Transport σ) (method : String) (body : Json)
    (world : σ × List Request) :
    (client.call transport.kept method body world).2.2 =
      world.2 ++ client.posting method body := by
  unfold call posting
  cases client.destination method with
  | error failure => exact (List.append_nil world.2).symm
  | ok place => rfl

theorem submitPosts (client : Client) (transport : Transport σ) (s : Submission)
    (world : σ × List Request) :
    (client.submit transport.kept s world).world.2 =
      world.2 ++ client.posting (methodOf s.stage).1 s.json := by
  rw [← callPosts client transport]
  simp only [submit]

def AsksPage (client : Client) (request : Request) : Prop :=
  ∃ token,
    request ∈ client.posting "ListAssets" (PageRequest.mk client.settings.pageSize token).json

theorem pagePosts (client : Client) (transport : Transport σ) (token : String)
    {world : σ × List Request} (before : ∀ request ∈ world.2, client.AsksPage request) :
    ∀ request ∈ (client.call transport.kept "ListAssets"
      (PageRequest.mk client.settings.pageSize token).json world).2.2, client.AsksPage request := by
  intro request inside
  rw [callPosts] at inside
  rcases List.mem_append.mp inside with earlier | now
  · exact before request earlier
  · exact ⟨token, now⟩

theorem pagesPost (client : Client) (transport : Transport σ) (left number : Nat) (token : String)
    (listed : List RegisteredAsset) {world : σ × List Request}
    (before : ∀ request ∈ world.2, client.AsksPage request) :
    ∀ request ∈ (client.pages transport.kept left number token listed world).world.2,
      client.AsksPage request := by
  induction left generalizing number token listed world with
  | zero => exact before
  | succ left ih =>
    have asked := client.pagePosts transport token before
    simp only [pages]
    generalize client.call transport.kept _ _ world = reached at asked ⊢
    obtain ⟨received, after⟩ := reached
    cases received with
    | interrupted => exact asked
    | failed failure => exact asked
    | response status body =>
      dsimp only at asked ⊢
      generalize readPage status body = found
      cases found with
      | error e => exact asked
      | ok page =>
        -- Only a page that names another token is followed by one more call.
        dsimp only
        split
        · exact asked
        · split
          · exact asked
          · exact ih _ _ _ asked

theorem listPosts (client : Client) (transport : Transport σ) (world : σ) :
    ∀ request ∈ (client.list transport.kept (world, [])).world.2, client.AsksPage request :=
  client.pagesPost transport _ _ _ _ nofun

end Client
end RegistrySeeding
