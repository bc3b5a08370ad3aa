import FlowEnrichment.Proofs.Address.Reading
import FlowEnrichment.Proofs.Json.Objects
import FlowEnrichment.Query

/-!
# Records that are read as they were written

Queries and answers are written as objects of all their fields. Their numbers are words, so they
are exact, and each record is read back as it was, an answer also with sorted keys. The attributes
of an interface and of an exporter are also read in any other order, and beside the entries of
another record.
-/
namespace FlowEnrichment

open Json

/-- A word of thirty-two bits is exact as a value. -/
theorem exact_word32 (n : UInt32) : (Value.nat n.toNat).Exact := by
  have bound : n.toNat < UInt32.size := n.toNat_lt
  exact Value.exact_nat (Nat.le_trans (Nat.le_of_lt bound) (by decide))

/-- A word of sixty-four bits is exact as a value. -/
theorem exact_word64 (n : UInt64) : (Value.nat n.toNat).Exact := by
  have bound : n.toNat < UInt64.size := n.toNat_lt
  exact Value.exact_nat (Nat.le_pred_of_lt bound)

/-! ## Queries -/

/-- A written address is read back. -/
theorem Address.reads (depth : Nat) (address : Address) :
    Address.decoder.Reads depth address.toJson address := by
  apply Decoder.Reads.refine (Decoder.reads_textNamed depth "IPv6 address" address.text)
  rw [Address.text, String.toList_ofList, Address.parse?_chars]

namespace Query

/-- A query is exact as a value. -/
theorem exact_toJson (query : Query) : query.toJson.Exact :=
  ⟨trivial, exact_word32 query.index, trivial⟩

/-- What has been gathered of a query when the fields of certain names have been read. -/
def part (query : Query) (got : String → Bool) : Gathered where
  exporter := given (got "exporter_ip") query.exporter
  index := given (got "if_index") query.index

/-- Every entry of a query brings its field. -/
theorem fits (depth : Nat) (query : Query) : record.Fits query.part depth
    [("exporter_ip", query.exporter.toJson), ("if_index", .nat query.index.toNat)] where
  each entry member := by
    left
    simp only [List.mem_cons, List.not_mem_nil, or_false] at member
    rcases member with rfl | rfl
    · exact ⟨_, rfl, fun _ => ⟨isSome_given _ _, (Address.reads depth _).map _⟩⟩
    · exact ⟨_, rfl, fun _ => ⟨isSome_given _ _, (Decoder.reads_word32 depth _).map _⟩⟩
  once := by
    show ["exporter_ip", "if_index"].Nodup
    decide

/-- A written query is read back. -/
theorem reads (depth : Nat) (query : Query) :
    decoder.Reads (depth + 1) query.toJson query :=
  (query.fits depth).reads (.refl _) rfl rfl

end Query

/-! ## Answers -/

/-- A written boundary is read back. -/
theorem Boundary.reads (depth : Nat) (boundary : Boundary) :
    Boundary.decoder.Reads depth boundary.toJson boundary := by
  apply Decoder.reads_oneOf
  cases boundary
  all_goals rfl

namespace Interface

/-- An interface is exact as a value. -/
theorem exact_toJson (interface : Interface) : interface.toJson.Exact :=
  ⟨trivial, trivial, exact_word64 interface.speed, trivial, trivial, trivial, trivial⟩

/-- What has been gathered of an interface when the fields of certain names have been read. -/
def part (interface : Interface) (got : String → Bool) : Gathered where
  name := given (got "name") interface.name
  description := given (got "description") interface.description
  speed := given (got "speed") interface.speed
  provider := given (got "provider") interface.provider
  connectivity := given (got "connectivity") interface.connectivity
  boundary := given (got "boundary") interface.boundary

/-- The keys of an interface differ. -/
theorem nodup_keys (interface : Interface) : (interface.entries.map Prod.fst).Nodup := by
  show ["name", "description", "speed", "provider", "connectivity", "boundary"].Nodup
  decide

/-- Every entry of an interface brings its attribute. -/
theorem fits (depth : Nat) (interface : Interface) :
    record.Fits interface.part depth interface.entries where
  each entry member := by
    left
    simp only [entries, List.mem_cons, List.not_mem_nil, or_false] at member
    rcases member with rfl | rfl | rfl | rfl | rfl | rfl
    · exact ⟨_, rfl, fun _ => ⟨isSome_given _ _, (Decoder.reads_text depth _).map _⟩⟩
    · exact ⟨_, rfl, fun _ => ⟨isSome_given _ _, (Decoder.reads_text depth _).map _⟩⟩
    · exact ⟨_, rfl, fun _ => ⟨isSome_given _ _, (Decoder.reads_word64 depth _).map _⟩⟩
    · exact ⟨_, rfl, fun _ => ⟨isSome_given _ _, (Decoder.reads_text depth _).map _⟩⟩
    · exact ⟨_, rfl, fun _ => ⟨isSome_given _ _, (Decoder.reads_text depth _).map _⟩⟩
    · exact ⟨_, rfl, fun _ => ⟨isSome_given _ _, (Boundary.reads depth _).map _⟩⟩
  once := interface.nodup_keys

/-- An interface is read from its attributes in any order. -/
theorem reads_perm (depth : Nat) (interface : Interface) {attributes : List (String × Value)}
    (same : attributes.Perm interface.entries) :
    decoder.Reads (depth + 1) (.object attributes) interface :=
  (interface.fits depth).reads same rfl rfl

/-- A written interface is read back. -/
theorem reads (depth : Nat) (interface : Interface) :
    decoder.Reads (depth + 1) interface.toJson interface :=
  interface.reads_perm depth (.refl _)

/-- A written interface is read back when its keys have been sorted. -/
theorem reads_sorted (depth : Nat) (interface : Interface) :
    decoder.Reads (depth + 1) interface.toJson.sorted interface :=
  interface.reads_perm depth (sortEntries_perm interface.nodup_keys)

/-- An interface is read from its attributes in an object that it shares. -/
theorem ofLeftovers_eq (interface : Interface) {attributes : List (String × Value)}
    (same : attributes.Perm interface.entries) :
    record.ofLeftovers (Draft.ofEntries attributes) = .ok interface :=
  (interface.fits 0).ofLeftovers_eq same rfl rfl rfl

end Interface

namespace Exporter

/-- An exporter is exact as a value. -/
theorem exact_toJson (exporter : Exporter) : exporter.toJson.Exact :=
  ⟨trivial, trivial, trivial, trivial, trivial, trivial, trivial⟩

/-- What has been gathered of an exporter when the fields of certain names have been read. -/
def part (exporter : Exporter) (got : String → Bool) : Gathered where
  name := given (got "name") exporter.name
  region := given (got "region") exporter.region
  role := given (got "role") exporter.role
  tenant := given (got "tenant") exporter.tenant
  site := given (got "site") exporter.site
  group := given (got "group") exporter.group

/-- The keys of an exporter differ. -/
theorem nodup_keys (exporter : Exporter) : (exporter.entries.map Prod.fst).Nodup := by
  show ["name", "region", "role", "tenant", "site", "group"].Nodup
  decide

/-- Every entry of an exporter brings its attribute. -/
theorem fits (depth : Nat) (exporter : Exporter) :
    record.Fits exporter.part depth exporter.entries where
  each entry member := by
    left
    simp only [entries, List.mem_cons, List.not_mem_nil, or_false] at member
    rcases member with rfl | rfl | rfl | rfl | rfl | rfl
    all_goals exact ⟨_, rfl, fun _ => ⟨isSome_given _ _, (Decoder.reads_text depth _).map _⟩⟩
  once := exporter.nodup_keys

/-- A written exporter is read back. -/
theorem reads (depth : Nat) (exporter : Exporter) :
    decoder.Reads (depth + 1) exporter.toJson exporter :=
  (exporter.fits depth).reads (.refl _) rfl rfl

/-- A written exporter is read back when its keys have been sorted. -/
theorem reads_sorted (depth : Nat) (exporter : Exporter) :
    decoder.Reads (depth + 1) exporter.toJson.sorted exporter :=
  (exporter.fits depth).reads (sortEntries_perm exporter.nodup_keys) rfl rfl

/-- An exporter is read from its attributes, in any order, in an object that it shares. -/
theorem ofLeftovers_eq (exporter : Exporter) {attributes : List (String × Value)}
    (same : attributes.Perm exporter.entries) :
    record.ofLeftovers (Draft.ofEntries attributes) = .ok exporter :=
  (exporter.fits 0).ofLeftovers_eq same rfl rfl rfl

end Exporter

namespace Answer

/-- An answer is exact as a value. -/
theorem exact_toJson (answer : Answer) : answer.toJson.Exact :=
  ⟨answer.exporter.exact_toJson, answer.interface.exact_toJson, trivial⟩

/-- What has been gathered of an answer when the fields of certain names have been read. -/
def part (answer : Answer) (got : String → Bool) : Gathered where
  exporter := given (got "exporter") answer.exporter
  interface := given (got "interface") answer.interface

variable {depth : Nat} {answer : Answer} {exporter interface : Value}

/-- Both parts of an answer are brought by their entries. -/
theorem fits (first : Exporter.decoder.Reads depth exporter answer.exporter)
    (second : Interface.decoder.Reads depth interface answer.interface) :
    record.Fits answer.part depth [("exporter", exporter), ("interface", interface)] where
  each entry member := by
    left
    simp only [List.mem_cons, List.not_mem_nil, or_false] at member
    rcases member with rfl | rfl
    · exact ⟨_, rfl, fun _ => ⟨isSome_given _ _, first.map _⟩⟩
    · exact ⟨_, rfl, fun _ => ⟨isSome_given _ _, second.map _⟩⟩
  once := by
    show ["exporter", "interface"].Nodup
    decide

/-- A written answer is read back. -/
theorem reads (depth : Nat) (answer : Answer) :
    decoder.Reads (depth + 2) answer.toJson answer :=
  (fits (answer.exporter.reads depth) (answer.interface.reads depth)).reads (.refl _) rfl rfl

/-- A written answer is read back when its keys have been sorted. -/
theorem reads_sorted (depth : Nat) (answer : Answer) :
    decoder.Reads (depth + 2) answer.toJson.sorted answer :=
  (fits (answer.exporter.reads_sorted depth) (answer.interface.reads_sorted depth)).reads
    (.refl _) rfl rfl

end Answer

end FlowEnrichment
