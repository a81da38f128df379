import RegistrySeeding.Client.Transport

/-! A transport that answers by a list of prepared replies, one a request, and keeps what it was
sent. -/
namespace RegistrySeeding

inductive Prepared where
  | respond (status : Nat) (body : List UInt8)
  | drop
  | hang
  | truncate (status : Nat) (body : List UInt8)
  | stall (status : Nat) (body : List UInt8)
  | interrupt
  deriving DecidableEq, Repr

structure Station where
  replies : List Prepared
  received : List Request := []
  deriving DecidableEq, Repr

namespace Station

def bodiless (status : Nat) : Bool := status = 204 || status = 304

def deliver : Prepared → Delivery
  | .respond status body =>
    .response status (if bodiless status then "" else Text.Utf8.decodeLossy body)
  | .drop => .lost .unanswered
  | .hang => .lost .unansweredInTime
  | .truncate status _ => if bodiless status then .response status "" else .lost .bodyCut
  | .stall status _ => if bodiless status then .response status "" else .lost .bodyNotInTime
  | .interrupt => .interrupted

def take (afterLast : Prepared) (request : Request) (station : Station) : Delivery × Station :=
  match station.replies with
  | [] => (deliver afterLast, { station with received := request :: station.received })
  | reply :: replies => (deliver reply, { replies, received := request :: station.received })

def listening (reaches : Url → Bool) (afterLast : Prepared) : Transport Station where
  send request station :=
    if reaches request.url then take afterLast request station else (.lost .unanswered, station)

end Station
end RegistrySeeding
