import Mathlib.Data.List.Nodup
import FlowEnrichment.Proofs.Except
import FlowEnrichment.Proofs.StaticTable

/-!
# Entries and their order

A lookup finds an entry whose addresses all other entries about the exporter have too, whichever
families they are of, and of several such entries the first (`lookup_least`). The order of a table
can therefore matter only where two entries have the same addresses. A valid table repeats no
subnet, but an IPv4 subnet and the IPv6 subnet of its mapped forms are two subnets with the same
addresses: `order_irrelevant_iff` says that the order of a valid table matters exactly if it lists
such a pair and the two answer differently.
-/
namespace FlowEnrichment.StaticTable

variable {table permuted : StaticTable} {exporter : Address} {entry one other : StaticExporter}

/-! ## Least entries -/

/-- An entry about an exporter has no address that another entry about the exporter has not. -/
structure Least (table : StaticTable) (exporter : Address) (entry : StaticExporter) : Prop where
  /-- The table lists the entry. -/
  listed : entry ∈ table.exporters
  /-- The exporter is one of its addresses. -/
  about : exporter ∈ entry.subnet.addresses
  /-- All entries about the exporter have its addresses. -/
  within : ∀ other ∈ table.exporters, exporter ∈ other.subnet.addresses →
    entry.subnet.addresses ⊆ other.subnet.addresses

/-- Least entries about an exporter have the same addresses. -/
theorem Least.addresses_eq (least_one : table.Least exporter one)
    (least_other : table.Least exporter other) :
    one.subnet.addresses = other.subnet.addresses :=
  Set.Subset.antisymm (least_one.within other least_other.listed least_other.about)
    (least_other.within one least_one.listed least_one.about)

/-- Which entries are least does not depend on their order. -/
theorem Least.perm (least : table.Least exporter entry)
    (perm : permuted.exporters.Perm table.exporters) : permuted.Least exporter entry :=
  ⟨perm.mem_iff.2 least.listed, least.about, fun other member =>
    least.within other (perm.mem_iff.1 member)⟩

/-- The most specific entry is the first of those that are least. -/
theorem mostSpecific_iff : table.MostSpecific exporter entry ↔
    table.Least exporter entry ∧ ∃ before after, table.exporters = before ++ entry :: after ∧
      ∀ other ∈ before, other.subnet.addresses ≠ entry.subnet.addresses := by
  constructor
  · rintro ⟨contains, least, before, after, split, first⟩
    have about : exporter ∈ entry.subnet.addresses := (entry.subnet.contains_iff_mem _).1 contains
    refine ⟨⟨?_, about, fun other member inside address => ?_⟩, before, after, split, ?_⟩
    · rw [split]
      exact List.mem_append_right before List.mem_cons_self
    · rw [← Subnet.contains_iff_mem] at inside
      rw [← Subnet.contains_iff_mem, ← Subnet.contains_iff_mem]
      exact least other member inside address
    · intro other early same
      rw [← same, ← Subnet.contains_iff_mem] at about
      obtain ⟨address, inside, outside⟩ := first other early about
      rw [Subnet.contains_iff_mem, same, ← Subnet.contains_iff_mem, outside] at inside
      cases inside
  · rintro ⟨least, before, after, split, first⟩
    have contains := (entry.subnet.contains_iff_mem exporter).2 least.about
    have within (other : StaticExporter) (member : other ∈ table.exporters)
        (inside : other.subnet.contains exporter = true) :=
      least.within other member ((other.subnet.contains_iff_mem _).1 inside)
    refine ⟨contains, fun other member inside address => ?_, before, after, split, ?_⟩
    · rw [Subnet.contains_iff_mem, Subnet.contains_iff_mem]
      exact fun among => within other member inside among
    · intro other early inside
      have member : other ∈ table.exporters := by
        rw [split]
        exact List.mem_append_left _ early
      obtain ⟨address, more, fewer⟩ : ∃ address ∈ other.subnet.addresses,
          address ∉ entry.subnet.addresses :=
        Set.not_subset.1 fun included => first other early
          (Set.Subset.antisymm included (within other member inside))
      refine ⟨address, (other.subnet.contains_iff_mem _).2 more, ?_⟩
      rw [Bool.eq_false_iff]
      exact fun inside => fewer ((entry.subnet.contains_iff_mem _).1 inside)

/-- A lookup fails if no entry is about the exporter. -/
theorem lookup_eq_none_iff : table.lookup exporter = none ↔
    ∀ entry ∈ table.exporters, entry.subnet.contains exporter = false := by
  have found := lookup_highest exporter table.exporters
  constructor
  · intro nothing
    rwa [nothing] at found
  · intro nobody
    cases looked_up : table.lookup exporter with
    | none => rfl
    | some entry =>
      rw [looked_up] at found
      obtain ⟨before, after, split, -⟩ := found.split
      have member : entry ∈ table.exporters := by
        rw [split]
        exact List.mem_append_right before List.mem_cons_self
      exact absurd (found.contains.symm.trans (nobody entry member)) (by decide)

/-- A lookup finds nothing exactly if no entry is about the exporter. What it finds otherwise is
the first of the entries whose addresses all entries about the exporter have, the addresses of an
IPv4 subnet being the mapped forms; what a subnet contains are its addresses. -/
theorem lookup_least (table : StaticTable) (exporter : Address) :
    (table.lookup exporter = none ↔
        ∀ entry ∈ table.exporters, entry.subnet.contains exporter = false) ∧
      (∀ entry, table.lookup exporter = some entry ↔
        table.Least exporter entry ∧ ∃ before after, table.exporters = before ++ entry :: after ∧
          ∀ other ∈ before, other.subnet.addresses ≠ entry.subnet.addresses) ∧
      ∀ subnet : Subnet, subnet.contains exporter = true ↔ exporter ∈ subnet.addresses :=
  ⟨lookup_eq_none_iff, fun _ => lookup_eq_some_iff.trans mostSpecific_iff,
    fun subnet => subnet.contains_iff_mem exporter⟩

/-- An entry that is listed first is found wherever it is least. -/
theorem Least.lookup_of_head {rest : List StaticExporter}
    (least : table.Least exporter entry) (head : table.exporters = entry :: rest) :
    table.lookup exporter = some entry :=
  lookup_eq_some_iff.2 (mostSpecific_iff.2 ⟨least, [], rest, head, fun _ early => nomatch early⟩)

/-! ## Validity -/

/-- Entries are valid, after others with known subnets, if each is named and does not both skip
interfaces and have a default, no two have the same subnet, and none has one of the others. -/
theorem validateFrom_eq_ok_iff {seen : List (Subnet × String)} {entries : List StaticExporter} :
    validateFrom seen entries = .ok () ↔
      (∀ entry ∈ entries, entry.exporter.name ≠ "" ∧
        ¬ (entry.skipMissing = true ∧ entry.fallback ≠ {}) ∧
        seen.lookup entry.subnet = none) ∧
      (entries.map StaticExporter.subnet).Nodup := by
  induction entries generalizing seen with
  | nil => simp [validateFrom]
  | cons entry rest ih =>
    have later (other : StaticExporter) :
        ((entry.subnet, entry.exporter.name) :: seen).lookup other.subnet = none ↔
          other.subnet ≠ entry.subnet ∧ seen.lookup other.subnet = none := by
      rw [List.lookup_cons]
      by_cases same : other.subnet = entry.subnet
      · simp [same]
      · simp [same, beq_eq_false_iff_ne.2 same]
    rw [validateFrom, List.map_cons, List.nodup_cons, List.forall_mem_cons]
    split
    case isTrue unnamed => simp [unnamed]
    case isFalse named =>
      split
      case isTrue both => simp [both]
      case isFalse apart =>
        cases known : seen.lookup entry.subnet with
        | some previous => simp
        | none =>
          simp only [ih, later]
          constructor
          · rintro ⟨each, distinct⟩
            refine ⟨⟨⟨named, apart, trivial⟩, fun other member => ?_⟩, fun again => ?_, distinct⟩
            · obtain ⟨named', apart', -, fresh⟩ := each other member
              exact ⟨named', apart', fresh⟩
            · obtain ⟨other, member, same⟩ := List.mem_map.1 again
              exact (each other member).2.2.1 same
          · rintro ⟨⟨-, each⟩, fresh, distinct⟩
            refine ⟨fun other member => ?_, distinct⟩
            obtain ⟨named', apart', unseen⟩ := each other member
            exact ⟨named', apart', fun same =>
              fresh (List.mem_map.2 ⟨other, member, same⟩), unseen⟩

/-- A table is valid if every entry is named and does not both skip interfaces and have a default,
and no subnet is repeated. -/
theorem validate_eq_ok_iff : table.validate = .ok () ↔
    (∀ entry ∈ table.exporters, entry.exporter.name ≠ "" ∧
      ¬ (entry.skipMissing = true ∧ entry.fallback ≠ {})) ∧
    (table.exporters.map StaticExporter.subnet).Nodup := by
  rw [validate, validateFrom_eq_ok_iff]
  simp

/-- Validity does not depend on the order of the entries. -/
theorem validate_perm (valid : table.validate = .ok ())
    (perm : permuted.exporters.Perm table.exporters) : permuted.validate = .ok () := by
  rw [validate_eq_ok_iff] at valid ⊢
  exact ⟨fun entry member => valid.1 entry (perm.mem_iff.1 member),
    (perm.map _).nodup_iff.2 valid.2⟩

/-- The provider of a valid table is built. -/
theorem build_of_validate (valid : table.validate = .ok ()) :
    table.plan.build = .ok table.provider := by
  show (table.validate >>= fun _ => pure table.provider) = .ok table.provider
  rw [valid]
  rfl

/-- Different entries of a valid table have different subnets. -/
theorem subnet_ne_of_validate (valid : table.validate = .ok ()) (member_one : one ∈ table.exporters)
    (member_other : other ∈ table.exporters) (ne : one ≠ other) : one.subnet ≠ other.subnet :=
  fun same => ne (List.inj_on_of_nodup_map (validate_eq_ok_iff.1 valid).2 member_one member_other
    same)

/-! ## Order -/

/-- A table lists an IPv4 subnet and the IPv6 subnet of its mapped forms, both are the most
specific ones about an exporter, and the two entries answer an index differently. -/
def Ambiguous (table : StaticTable) : Prop :=
  ∃ exporter one other block4 block6 index,
    table.Least exporter one ∧ table.Least exporter other ∧
      one.subnet = .v4 block4 ∧ other.subnet = .v6 block6 ∧
      update? one exporter index ≠ update? other exporter index

/-- What a table answers is what the entry that it finds says of each index. -/
theorem answer_congr {batch : BatchQuery} (found : table.lookup batch.exporter = some one)
    (found' : permuted.lookup batch.exporter = some other)
    (same : ∀ index, update? one batch.exporter index = update? other batch.exporter index) :
    table.answer batch = permuted.answer batch := by
  have skips (index : UInt32) :
      (one.interface? index).isNone = (other.interface? index).isNone := by
    have isNone (entry : StaticExporter) : (entry.interface? index).isNone =
        (update? entry batch.exporter index).isNone := Option.isNone_map.symm
    rw [isNone, isNone, same]
  unfold answer
  rw [found, found']
  simp only [skips, funext same]

/-- What a table answers to one index tells what the entry that it finds says of the index. -/
theorem head?_updates (found : table.lookup exporter = some entry) (index : UInt32) :
    (table.answer ⟨exporter, [index]⟩).1.head? = update? entry exporter index := by
  unfold answer
  rw [found]
  cases said : update? entry exporter index <;> simp [said]

/-- Providers reply the same to a batch if their tables answer it the same. -/
theorem reply_eq_iff {batch : BatchQuery} :
    permuted.provider.reply batch = table.provider.reply batch ↔
      permuted.answer batch = table.answer batch := by
  rw [provider_reply, provider_reply]
  constructor
  · intro same
    injection same with effects ending
    injection ending with outcome
    exact Prod.ext (List.map_injective_iff.2 (fun _ _ same => Effect.report.inj same) effects)
      outcome
  · intro same
    rw [same]

/-- Where no pair of entries is ambiguous, a valid table answers the same in any order. -/
theorem answer_perm (valid : table.validate = .ok ()) (clear : ¬ table.Ambiguous)
    (perm : permuted.exporters.Perm table.exporters) (batch : BatchQuery) :
    permuted.answer batch = table.answer batch := by
  cases found : table.lookup batch.exporter with
  | none =>
    have nobody : permuted.lookup batch.exporter = none := lookup_eq_none_iff.2
      fun entry member => lookup_eq_none_iff.1 found entry (perm.mem_iff.1 member)
    unfold answer
    rw [found, nobody]
  | some one =>
    have least_one := (mostSpecific_iff.1 (lookup_eq_some_iff.1 found)).1
    cases found' : permuted.lookup batch.exporter with
    | none =>
      have nobody := lookup_eq_none_iff.1 found' one (perm.mem_iff.2 least_one.listed)
      rw [Bool.eq_false_iff] at nobody
      exact absurd ((one.subnet.contains_iff_mem _).2 least_one.about) nobody
    | some other =>
      have least_other := (mostSpecific_iff.1 (lookup_eq_some_iff.1 found')).1.perm perm.symm
      refine (answer_congr found found' fun index => ?_).symm
      by_contra differ
      have ne : one.subnet ≠ other.subnet :=
        subnet_ne_of_validate valid least_one.listed least_other.listed
          fun same => differ (by rw [same])
      rcases Subnet.families_of_addresses_eq (least_one.addresses_eq least_other) ne with
        ⟨block4, block6, of_one, of_other⟩ | ⟨block6, block4, of_one, of_other⟩
      · exact clear ⟨_, one, other, block4, block6, index, least_one, least_other, of_one,
          of_other, differ⟩
      · exact clear ⟨_, other, one, block4, block6, index, least_other, least_one, of_other,
          of_one, Ne.symm differ⟩

/-- A least entry can be listed first, and is found then. -/
theorem Least.exists_perm (least : table.Least exporter entry) :
    ∃ permuted : StaticTable, permuted.exporters.Perm table.exporters ∧
      permuted.lookup exporter = some entry := by
  obtain ⟨before, after, split⟩ := List.append_of_mem least.listed
  have perm : (StaticTable.mk (entry :: (before ++ after))).exporters.Perm table.exporters := by
    rw [split]
    exact List.perm_middle.symm
  exact ⟨_, perm, (least.perm perm).lookup_of_head rfl⟩

/-- In whatever order the entries of a valid table are listed, its provider is built; and its
replies do not depend on the order exactly if the table does not list an IPv4 subnet and the IPv6
subnet of its mapped forms with different answers. -/
theorem order_irrelevant_iff (valid : table.validate = .ok ()) :
    (∀ permuted : StaticTable, permuted.exporters.Perm table.exporters →
        permuted.plan.build = .ok permuted.provider) ∧
      ((∀ permuted : StaticTable, permuted.exporters.Perm table.exporters →
          ∀ batch, permuted.provider.reply batch = table.provider.reply batch) ↔
        ¬ table.Ambiguous) := by
  refine ⟨fun permuted perm => build_of_validate (validate_perm valid perm), fun same => ?_,
    fun clear permuted perm batch => reply_eq_iff.2 (answer_perm valid clear perm batch)⟩
  rintro ⟨exporter, one, other, block4, block6, index, least_one, least_other, -, -, differ⟩
  -- Either of the two may be listed first, and the table answers by the one that is.
  obtain ⟨first, perm_one, found_one⟩ := least_one.exists_perm
  obtain ⟨second, perm_other, found_other⟩ := least_other.exists_perm
  have answers := (reply_eq_iff.1 (same first perm_one ⟨exporter, [index]⟩)).trans
    (reply_eq_iff.1 (same second perm_other ⟨exporter, [index]⟩)).symm
  apply differ
  rw [← head?_updates found_one, ← head?_updates found_other, answers]

/-- A table of exporters behind IPv4 addresses, some of which are written as IPv6 addresses, with
an entry of its own for one part of them. -/
def nestedTable : StaticTable :=
  ⟨[⟨.v4 (.around 0x0a000000 8 (by decide)), { name := "all" }, {}, [], false⟩,
    ⟨.v6 (.around 0xffff0a010000 112 (by decide)), { name := "part" }, {}, [], false⟩]⟩

/-- Nested subnets of both families may be listed in any order. -/
theorem order_irrelevant_of_nested :
    nestedTable.validate = .ok () ∧ ¬ nestedTable.Ambiguous ∧
      ∀ batch, (StaticTable.provider ⟨nestedTable.exporters.reverse⟩).reply batch =
        nestedTable.provider.reply batch := by
  have valid : nestedTable.validate = .ok () := by decide
  have clear : ¬ nestedTable.Ambiguous := by
    rintro ⟨exporter, one, other, block4, block6, index, least_one, least_other, of_one, of_other,
      -⟩
    have same := least_one.addresses_eq least_other
    have rank := Subnet.rank_eq_of_addresses_eq same
    have listed := And.intro least_one.listed least_other.listed
    simp only [nestedTable, List.mem_cons, List.not_mem_nil, or_false] at listed
    rcases listed with ⟨rfl | rfl, rfl | rfl⟩
    · cases of_other
    · exact absurd rank (by decide)
    · cases of_one
    · cases of_one
  exact ⟨valid, clear, fun batch =>
    (order_irrelevant_iff valid).2.2 clear ⟨_⟩ (List.reverse_perm _) batch⟩

/-- An IPv4 subnet and the IPv6 subnet of its mapped forms may both be listed, and then the first
of them answers. -/
theorem order_matters_of_mapped :
    let one : StaticExporter :=
      ⟨.v4 (.around 0x0a000000 8 (by decide)), { name := "one" }, {}, [], false⟩
    let other : StaticExporter :=
      ⟨.v6 (.around 0xffff0a000000 104 (by decide)), { name := "other" }, {}, [], false⟩
    let batch : BatchQuery := ⟨Ipv4.mapped ⟨0x0a000001⟩, [1]⟩
    validate ⟨[one, other]⟩ = .ok () ∧ [other, one].Perm [one, other] ∧
      (answer ⟨[one, other]⟩ batch).1.map (·.answer.exporter.name) = ["one"] ∧
      (answer ⟨[other, one]⟩ batch).1.map (·.answer.exporter.name) = ["other"] := by
  decide

end FlowEnrichment.StaticTable
