import FlowEnrichment.Proofs.Subnet.Text

/-!
# Static tables as documents

An exporter of a static table and its attributes share one object, and so do an interface and its
attributes. Each part finds its own entries in it and leaves the others, so a written table is read
back as it was (`StaticTable.decoded_as_written`), whether its keys stand in the order in which they
were written or, as in a value held in memory, in ascending order.
-/
namespace FlowEnrichment

open Json

/-! ## Interfaces -/

namespace StaticInterface

/-- The entries of an interface of a static exporter. -/
def entries (entry : StaticInterface) : List (String × Value) :=
  ("if_index", .nat entry.index.toNat) :: entry.interface.entries

/-- The index is brought by its entry, and the attributes are left. -/
theorem fits (depth : Nat) (entry : StaticInterface) :
    record.Fits (fun got => given (got "if_index") entry.index) depth entry.entries where
  each item member := by
    simp only [entries, Interface.entries, List.mem_cons, List.not_mem_nil, or_false] at member
    rcases member with rfl | rfl | rfl | rfl | rfl | rfl | rfl
    · exact .inl ⟨_, rfl, fun _ => ⟨isSome_given _ _, (Decoder.reads_word32 depth _).map _⟩⟩
    all_goals exact .inr ⟨rfl, Nat.zero_le depth⟩
  once := by
    show ["if_index"].Nodup
    decide

/-- An interface is read from its entries in any order. -/
theorem reads_perm (depth : Nat) (entry : StaticInterface) {attributes : List (String × Value)}
    (same : attributes.Perm entry.entries) :
    decoder.Reads (depth + 1) (.object attributes) entry :=
  (entry.fits depth).reads_shared same rfl rfl
    (Interface.ofLeftovers_eq entry.interface (same.filter _))

/-- A written interface is read back. -/
theorem reads (depth : Nat) (entry : StaticInterface) :
    decoder.Reads (depth + 1) entry.toJson entry :=
  entry.reads_perm depth (.refl _)

/-- A written interface is read back when its keys have been sorted. -/
theorem reads_sorted (depth : Nat) (entry : StaticInterface) :
    decoder.Reads (depth + 1) entry.toJson.sorted entry := by
  refine entry.reads_perm depth (sortEntries_perm ?_)
  show ["if_index", "name", "description", "speed", "provider", "connectivity", "boundary"].Nodup
  decide

/-- An interface is exact as a value. -/
theorem exact_toJson (entry : StaticInterface) : entry.toJson.Exact :=
  ⟨exact_word32 entry.index, entry.interface.exact_toJson⟩

end StaticInterface

/-! ## Exporters -/

namespace StaticExporter

/-- The entries of a static exporter; the default and the interfaces are given as values. -/
def entries (entry : StaticExporter) (fallback interfaces : Value) : List (String × Value) :=
  ("subnet", entry.subnet.toJson) :: (entry.exporter.entries ++
    [("default", fallback), ("interfaces", interfaces),
      ("skip_missing_interfaces", .bool entry.skipMissing)])

/-- What has been gathered of a static exporter when the fields of certain names have been read. -/
def part (entry : StaticExporter) (got : String → Bool) : Gathered where
  subnet := given (got "subnet") entry.subnet
  fallback := given (got "default") entry.fallback
  interfaces := given (got "interfaces") entry.interfaces
  skipMissing := given (got "skip_missing_interfaces") entry.skipMissing

variable {depth : Nat} {entry : StaticExporter} {fallback interfaces : Value}

/-- The fields of an exporter are brought by their entries, and the attributes are left. -/
theorem fits (default : Interface.decoder.Reads depth fallback entry.fallback)
    (listed : (Decoder.list StaticInterface.decoder).Reads depth interfaces entry.interfaces) :
    record.Fits entry.part depth (entry.entries fallback interfaces) where
  each item member := by
    simp only [entries, Exporter.entries, List.cons_append, List.nil_append, List.mem_cons,
      List.not_mem_nil, or_false] at member
    rcases member with rfl | rfl | rfl | rfl | rfl | rfl | rfl | rfl | rfl | rfl
    · exact .inl ⟨_, rfl, fun _ => ⟨isSome_given _ _, (entry.subnet.reads depth).map _⟩⟩
    iterate 6 exact .inr ⟨rfl, Nat.zero_le depth⟩
    · exact .inl ⟨_, rfl, fun _ => ⟨isSome_given _ _, default.map _⟩⟩
    · exact .inl ⟨_, rfl, fun _ => ⟨isSome_given _ _, listed.map _⟩⟩
    · exact .inl ⟨_, rfl, fun _ => ⟨isSome_given _ _, (Decoder.reads_bool depth _).map _⟩⟩
  once := by
    show ["subnet", "default", "interfaces", "skip_missing_interfaces"].Nodup
    decide

/-- An exporter is read from its entries in any order. -/
theorem reads_perm (default : Interface.decoder.Reads depth fallback entry.fallback)
    (listed : (Decoder.list StaticInterface.decoder).Reads depth interfaces entry.interfaces)
    {attributes : List (String × Value)}
    (same : attributes.Perm (entry.entries fallback interfaces)) :
    decoder.Reads (depth + 1) (.object attributes) entry :=
  (fits default listed).reads_shared same rfl rfl
    (Exporter.ofLeftovers_eq entry.exporter (same.filter _))

/-- A written exporter is read back. -/
theorem reads (depth : Nat) (entry : StaticExporter) :
    decoder.Reads (depth + 3) entry.toJson entry :=
  reads_perm (entry.fallback.reads (depth + 1))
    (Decoder.reads_list _ _ fun interface _ => interface.reads depth) (.refl _)

/-- A written exporter is read back when its keys have been sorted. -/
theorem reads_sorted (depth : Nat) (entry : StaticExporter) :
    decoder.Reads (depth + 3) entry.toJson.sorted entry := by
  have default := entry.fallback.reads_sorted (depth + 1)
  have listed : (Decoder.list StaticInterface.decoder).Reads (depth + 2)
      (Value.array (entry.interfaces.map StaticInterface.toJson)).sorted entry.interfaces := by
    rw [Value.sorted, Value.sortedItems_eq_map, List.map_map]
    exact Decoder.reads_list _ _ fun interface _ => interface.reads_sorted depth
  refine reads_perm default listed (sortEntries_perm ?_)
  show ["subnet", "name", "region", "role", "tenant", "site", "group", "default", "interfaces",
    "skip_missing_interfaces"].Nodup
  decide

/-- An exporter is exact as a value. -/
theorem exact_toJson (entry : StaticExporter) : entry.toJson.Exact := by
  have listed : (Value.array (entry.interfaces.map StaticInterface.toJson)).Exact := by
    apply Value.exactItems_of_forall
    intro item member
    obtain ⟨interface, -, rfl⟩ := List.mem_map.1 member
    exact interface.exact_toJson
  exact ⟨trivial, trivial, trivial, trivial, trivial, trivial, trivial,
    entry.fallback.exact_toJson, listed, trivial, trivial⟩

end StaticExporter

/-! ## Tables -/

namespace StaticTable

/-- A table is read from the entry of its exporters. -/
theorem reads_of_exporters {depth : Nat} {table : StaticTable} {exporters : Value}
    (listed : (Decoder.list StaticExporter.decoder).Reads depth exporters table.exporters) :
    decoder.Reads (depth + 1) (.object [("exporters", exporters)]) table := by
  have fits : record.Fits (fun got => given (got "exporters") table.exporters) depth
      [("exporters", exporters)] := by
    constructor
    · intro item member
      rw [List.mem_singleton.1 member]
      exact .inl ⟨_, rfl, fun _ => ⟨isSome_given _ _, listed.map _⟩⟩
    · show ["exporters"].Nodup
      decide
  exact fits.reads (.refl _) rfl rfl

/-- A written table is read back. -/
theorem reads (table : StaticTable) : decoder.Reads 5 table.toJson table :=
  reads_of_exporters (Decoder.reads_list _ _ fun entry _ => entry.reads 0)

/-- A written table is read back when its keys have been sorted. -/
theorem reads_sorted (table : StaticTable) : decoder.Reads 5 table.toJson.sorted table := by
  apply reads_of_exporters
  rw [Value.sorted, Value.sortedItems_eq_map, List.map_map]
  exact Decoder.reads_list _ _ fun entry _ => entry.reads_sorted 0

/-- A table is exact as a value. -/
theorem exact_toJson (table : StaticTable) : table.toJson.Exact := by
  refine ⟨Value.exactItems_of_forall fun item member => ?_, trivial⟩
  obtain ⟨entry, -, rfl⟩ := List.mem_map.1 member
  exact entry.exact_toJson

/-- Whatever its subnets, attributes, defaults, interfaces and flags, a table is decoded again from
the value that it is written as, whose keys ascend, and from its text: from the text in the order
in which it is written, and from the text of that value. -/
theorem decoded_as_written (table : StaticTable) :
    decoder.ofValue table.toJson.sorted = .ok table ∧
    decoder.ofText table.toJson.compact = .ok table ∧
    decoder.ofText table.toJson.sorted.compact = .ok table := by
  have shallow : 5 ≤ Source.textRoom := by decide
  refine ⟨table.reads_sorted .value trivial, ?_, ?_⟩
  · exact Decoder.ofText_compact table.exact_toJson (table.reads.mono shallow)
  · exact Decoder.ofText_compact table.exact_toJson.sorted (table.reads_sorted.mono shallow)

end StaticTable

end FlowEnrichment
