import ConfigBinding.Converter.Custom
import ConfigBinding.Proofs.Codec.Reading

/-!
# Lists and maps beside converters of a caller

An element takes another way inside a container than on its own: there it is converted as a part of
the container, checked as a part of it, and taken from its native form in a second pass. A caller's
deserializers are asked on both ways. They may change what an element is, refuse it, or make
something of nothing; as long as they leave containers to the built-in converters
(`Registry.LeavesContainers`), both ways lead to the same element (`Codec.read_elementwise`).

That needs nothing of the element's type, which may be any codec, and nothing of what a caller's
deserializer asks in turn: the elements of a container are converted with the same limit on such
questions as the container itself (`LeavesContainers.read_list`, `LeavesContainers.read_map`).
-/

namespace ConfigBinding

namespace Registry

variable {r : Registry}

/-- The deserializers that a caller has added take no list for a list, and no map for a map. -/
structure LeavesContainers (r : Registry) : Prop where
  lists : ∀ d ∈ r.deserializers, ∀ items c, c.shape = .list →
    d.accepts (some (.list items)) c = false
  maps : ∀ d ∈ r.deserializers, ∀ t c, c.shape = .map → d.accepts (some (.config t)) c = false

theorem ownReading?_eq_none {v : Option Value} {c : Constraint} (again : Reading)
    (h : ∀ d ∈ r.deserializers, d.accepts v c = false) : r.ownReading? again v c = none := by
  -- whatever the converters would ask in turn, none of them is chosen
  rw [ownReading?, Option.map_eq_none_iff, List.find?_eq_none]
  intro d hd haccepts
  rw [h d hd] at haccepts
  cases haccepts

namespace LeavesContainers

variable (h : r.LeavesContainers)

include h

/-- A list for a list is read item by item, and each item like a value on its own. -/
theorem read_list (items : List Value) (name : String) (element : Constraint) :
    r.read (some (.list items)) ⟨.list, name, [element]⟩
      = .list <$> items.mapM fun v => r.read (Deserializer.present v) element := by
  obtain ⟨again, hread⟩ := r.exists_read_eq
  rw [hread]
  exact readOptionWith_list (ownReading?_eq_none again fun d hd => h.lists d hd items _ rfl)

/-- A map for a map is read value by value, and each value like one on its own. -/
theorem read_map (t : Tree) (name : String) (element : Constraint) :
    r.read (some (.config t)) ⟨.map, name, [element]⟩
      = Serializer.convertEntries (fun v => r.read (Deserializer.present v) element) t := by
  obtain ⟨again, hread⟩ := r.exists_read_eq
  rw [hread]
  exact readOptionWith_map (ownReading?_eq_none again fun d hd => h.maps d hd t _ rfl)

end LeavesContainers

end Registry

/-- A map of any kind holds the entries that were read. -/
theorem MapKind.arrange_perm {α : Type} (kind : MapKind) (entries : List (String × α)) :
    (kind.arrange entries).Perm entries := by
  cases kind with
  | sorted => exact List.mergeSort_perm entries _
  | hashed | indexed => exact .refl entries

namespace Codec

/-- Where a caller's deserializers leave containers alone, a list is read exactly when each of its
items can be read on its own, and is the list of what they are read as; a map is read exactly when
each of its values can be, holds what they are read as under the same keys, and keeps their order if
it is indexed. The null marker among the elements counts for what it counts on its own. -/
theorem read_elementwise (c : Codec) (o : Options) (h : o.registry.LeavesContainers) :
    (∀ (items : List Value) (d : Datum),
        (list c).readValue o (.list items) = .ok d ↔ ∃ ds, d = .list ds
          ∧ List.Forall₂ (fun v y => c.readValue o v = .ok y) items ds)
      ∧ ∀ (kind : MapKind) (t : Tree) (d : Datum),
        (map kind c).readValue o (.config t) = .ok d ↔ ∃ entries, d = .map kind (kind.arrange entries)
          ∧ List.Forall₂ (fun p q => p.1 = q.1 ∧ c.readValue o p.2 = .ok q.2) t.entries entries
          ∧ (kind.arrange entries).Perm entries
          ∧ (kind = .indexed → kind.arrange entries = entries) := by
  constructor
  · exact fun items d => readValue_list_iff (h.read_list items _ _)
  · intro kind t d
    rw [readValue_map_iff (h.read_map t _ _)]
    constructor
    · rintro ⟨entries, rfl, hentries⟩
      refine ⟨entries, rfl, hentries, kind.arrange_perm entries, ?_⟩
      rintro rfl
      rfl
    · rintro ⟨entries, rfl, hentries, -, -⟩
      exact ⟨entries, rfl, hentries⟩

end Codec

namespace Example

/-- Options under which two words are truth values, texts with commas are lists, and nothing is the
integer zero. -/
def lenientOptions : Options where
  registry := { deserializers := [.words, .commaSeparated, .zero] }

theorem lenientOptions_leavesContainers : lenientOptions.registry.LeavesContainers where
  lists d hd items c hc := by
    simp only [lenientOptions, List.mem_cons, List.not_mem_nil, or_false] at hd
    rcases hd with rfl | rfl | rfl <;> exact Bool.and_false _
  maps d hd t c hc := by
    simp only [lenientOptions, List.mem_cons, List.not_mem_nil, or_false] at hd
    rcases hd with rfl | rfl | rfl <;> exact Bool.and_false _

/-- The null marker is read as zero inside a list as on its own, and words are read inside a map. -/
theorem read_elementwise_lenient :
    lenientOptions.registry.LeavesContainers
      ∧ (Codec.list (.integer .i64)).readValue lenientOptions
          (.list [.null, .number (.integer 1)]) = .ok (.list [.integer 0, .integer 1])
      ∧ (Codec.map .indexed .bool).readValue lenientOptions
          (.config ⟨[("b", .string "yes"), ("a", .bool false)], []⟩)
        = .ok (.map .indexed [("b", .bool true), ("a", .bool false)]) := by
  have hleaves := lenientOptions_leavesContainers
  obtain ⟨hlist, -⟩ := Codec.read_elementwise (.integer .i64) lenientOptions hleaves
  obtain ⟨-, hmap⟩ := Codec.read_elementwise .bool lenientOptions hleaves
  refine ⟨hleaves, (hlist _ _).mpr ⟨_, rfl, ?_⟩, (hmap _ _ _).mpr ⟨_, rfl, ?_, .refl _, ?_⟩⟩
  · exact .cons rfl (.cons rfl .nil)
  · exact .cons ⟨rfl, rfl⟩ (.cons ⟨rfl, rfl⟩ .nil)
  · exact fun _ => rfl

end Example

end ConfigBinding
