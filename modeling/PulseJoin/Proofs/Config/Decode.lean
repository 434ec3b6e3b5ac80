import PulseJoin.Config.Source
import PulseJoin.Proofs.Text.DataFormat

/-!
# Configurations from built data

What a builder of a data format makes of a configuration is read as that configuration
(`Config.decode?_build`), in whatever order its settings stand.
-/

namespace PulseJoin

open Text DataFormat

variable {β : Type} [DataFormat β] (b : Builder β)

def Schedule.build (s : Schedule) : β :=
  b.table [("name", b.text s.name), ("period", b.int s.period.toInt),
    ("phase", b.int s.phase.toInt)]

theorem Schedule.decode?_build (s : Schedule) : decode? (s.build b) = some s := by
  have hfields : fields? fieldNames (s.build b) =
      some [some (b.text s.name), some (b.int s.period.toInt), some (b.int s.phase.toInt)] := by
    rw [build, b.fields?_table (by simp [fieldNames])]
    simp [fieldNames, unique?]
  simp [decode?, hfields, optional_some, b.text?_text, b.int64?_int]

def DeliveryMode.build (d : DeliveryMode) : β :=
  b.table (("mode", b.text d.word) ::
    match d with
    | .push capacity => [("queue_capacity", b.int capacity.toNat)]
    | .pull => [])

theorem DeliveryMode.decode?_build (d : DeliveryMode) : decode? (d.build b) = some d := by
  have hstorable : isStorable (d.build b) = true := by
    apply b.isStorable_table
    intro e he
    cases d with
    | push capacity =>
      simp only [List.mem_cons, List.not_mem_nil, or_false] at he
      rcases he with rfl | rfl
      · exact .inl ⟨_, rfl⟩
      · exact .inr ⟨capacity, rfl⟩
    | pull =>
      rw [List.mem_singleton.1 he]
      exact .inl ⟨_, rfl⟩
  have hitems : items? (d.build b) = none := b.items?_table _
  have hentries : entries? (d.build b) = some _ := b.entries?_table _
  cases d with
  | push capacity =>
    simp [decode?, hstorable, hitems, hentries, ofEntries?, unique?, b.text?_text, word, capacity?,
      optional_some, b.uint64?_int]
  | pull =>
    simp [decode?, hstorable, hitems, hentries, ofEntries?, unique?, b.text?_text, word]

/-- The values of a configuration's fields, in their order. -/
def Config.fieldValues (c : Config) : List (Option β) :=
  [some (b.list (c.channels.map (·.build b))), some (b.int c.maxBuffered.toNat),
    c.maxAge?.map fun ms => b.int ms.toNat, some (b.bool c.sendIncomplete),
    some (b.bool c.sendFirstComplete), some (c.delivery.build b)]

theorem Config.decode?_build {c : Config} {entries : List (String × β)}
    (hnames : ∀ e ∈ entries, e.1 ∈ fieldNames)
    (hvalues : fieldNames.mapM (unique? entries) = some (c.fieldValues b)) :
    decode? (b.table entries) = some c := by
  have hfields : fields? fieldNames (b.table entries) = some (c.fieldValues b) := by
    rw [b.fields?_table hnames, hvalues]
  have hage : DataFormat.optional none (nullable? uint64?)
      (c.maxAge?.map fun ms => b.int ms.toNat) = some c.maxAge? := by
    cases c.maxAge? with
    | none => rfl
    | some ms => simp [optional_some, nullable?, b.isNull_int, b.uint64?_int]
  simp [-List.mapM_map, decode?, hfields, fieldValues, b.items?_list,
    DataFormat.mapM_map (Schedule.decode?_build b), hage, optional_some, b.uint64?_int,
    b.bool?_bool, DeliveryMode.decode?_build]

/-- What is read is loaded if it can be run. -/
theorem Config.load_of_read? {format : Format} {text : String} {c : Config}
    (hread : format.read? text = some c) (h : c.fault? = none) : load format text = .ok c := by
  simp [load, hread, h]

end PulseJoin
