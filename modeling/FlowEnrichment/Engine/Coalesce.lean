import FlowEnrichment.Query

/-!
# Coalescing

Requests that wait together are gathered into a round of batches, one batch for each exporter.
A round takes requests from the front of the queue only, and it ends early when the batch that
grew last is full or when it holds as many exporters as a round may hold.
-/
namespace FlowEnrichment.Coalesce

/-- The greatest number of exporters in a round. -/
def maxExporters : Nat := 4

/-- Adds a request to the batch of its exporter, or as a new batch behind the others, and tells
the size of that batch. -/
def add (query : Query) : List BatchQuery → List BatchQuery × Nat
  | [] => ([⟨query.exporter, [query.index]⟩], 1)
  | batch :: rest =>
    if batch.exporter = query.exporter then
      (⟨batch.exporter, batch.indexes ++ [query.index]⟩ :: rest, batch.indexes.length + 1)
    else
      let (rest, size) := add query rest
      (batch :: rest, size)

/-- Whether a round takes no more requests, `size` being that of the batch that grew last. -/
def isFull (limit size : Nat) (round : List BatchQuery) : Bool :=
  limit == 0 || limit ≤ size || maxExporters ≤ round.length

/-- Gathers requests until the round is full or the queue is empty. -/
def gather (limit : Nat) : List BatchQuery → Nat → List Query → List BatchQuery × List Query
  | round, _, [] => (round, [])
  | round, size, query :: queue =>
    if isFull limit size round then (round, query :: queue)
    else
      let (round, size) := add query round
      gather limit round size queue

/-- The round that starts with a request, and the requests that it leaves in the queue. -/
def round (limit : Nat) (first : Query) (queue : List Query) : List BatchQuery × List Query :=
  let (batches, size) := add first []
  gather limit batches size queue

end FlowEnrichment.Coalesce
