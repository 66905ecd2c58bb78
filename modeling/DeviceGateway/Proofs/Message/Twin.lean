/-
# Twin documents and patches read back

A twin that was read from a message, and a patch that was, come back from the message that they are
written to.  What was read is kept exactly where its numbers are whole; it has its members in order, and
the two levels of nesting that the twin adds were there when it was read.
-/

import DeviceGateway.Message.Convert
import DeviceGateway.Proofs.Json.Values
import DeviceGateway.Proofs.Message.HubMessage

namespace DeviceGateway

open Json

namespace Json

theorem ordered_of_value? {depth : Nat} {document : Syntax} {members : List (String × Value)}
    (read : document.value? depth = some (.object members)) : Entries.Ordered members := by
  cases document with
  | object documents =>
    cases depth with
    | zero => cases read
    | succ depth =>
      obtain ⟨found, gathered, same⟩ := Option.map_eq_some_iff.1 read
      cases same
      exact (kept_of_memberValues? (fun _ _ => kept_of_value?) gathered List.Pairwise.nil nofun).1
  | null => cases read
  | bool => cases read
  | number =>
    obtain ⟨_, _, same⟩ := Option.map_eq_some_iff.1 read
    cases same
  | text =>
    obtain ⟨_, _, same⟩ := Option.map_eq_some_iff.1 read
    cases same
  | array =>
    cases depth with
    | zero => cases read
    | succ depth =>
      obtain ⟨_, _, same⟩ := Option.map_eq_some_iff.1 read
      cases same

/-- An object that was read is the value of its document. -/
theorem object?_eq_some_iff {depth : Nat} {document : Syntax} {object : Object} :
    document.object? depth = some object ↔ document.value? depth = some (.ofObject object) := by
  constructor
  · intro read
    obtain ⟨value, found, isObject⟩ := Option.bind_eq_some_iff.1 read
    cases value with
    | object members =>
      cases isObject
      rw [found, Value.ofObject, TextMap.entries_ofList (ordered_of_value? found)]
    | _ => cases isObject
  · intro found
    have whole : TextMap.ofList object.entries = object := TextMap.ext (TextMap.entries_ofList object.ordered)
    rw [Syntax.object?, found]
    exact congrArg some whole

/-- The parts of a record lie one level deeper than the record. -/
theorem depth_of_gatherMembers {names : List String} {depth : Nat} {before given : Fields Part}
    {documents : List (List Piece × Syntax)}
    (gathered : gatherMembers names depth before documents = some given)
    (level : ∀ field ∈ before, field.2.depth = depth) : ∀ field ∈ given, field.2.depth = depth := by
  induction documents generalizing before with
  | nil =>
    cases gathered
    exact level
  | cons first rest ih =>
    obtain ⟨pieces, document⟩ := first
    unfold gatherMembers at gathered
    split at gathered
    case h_1 => cases gathered
    case h_2 name _ =>
      split at gathered
      case isTrue =>
        split at gathered
        case isTrue => cases gathered
        case isFalse => exact ih gathered (List.forall_mem_cons.2 ⟨rfl, level⟩)
      case isFalse => exact ih gathered level

theorem depth_of_fields {names : List String} {part : Part} {given : Fields Part}
    (read : Shape.fields names part = some given) : ∀ field ∈ given, field.2.depth + 1 = part.depth := by
  obtain ⟨depth, document⟩ := part
  unfold Shape.fields at read
  split at read
  case h_1 members below _ isDepth =>
    simp only at isDepth
    intro field member
    rw [isDepth, depth_of_gatherMembers read nofun field member]
  case h_2 items below _ isDepth =>
    simp only at isDepth
    obtain ⟨_, same⟩ := Option.ite_none_right_eq_some.1 read
    cases same
    intro field member
    obtain ⟨item, _, same⟩ := List.mem_map.1 (List.of_mem_zip member).2
    rw [isDepth, ← same]
  case h_3 => cases read

end Json

namespace PropertySet

/-- A section has whole numbers only. -/
def OnlyIntegers (properties : PropertySet) : Prop := properties.toJson.OnlyIntegers

theorem shape_eq_some_iff {part : Part} {properties : PropertySet} :
    shape part = some properties ↔ part.form.value? part.depth = some properties.toJson := by
  rw [shape, Option.map_eq_some_iff]
  constructor
  · rintro ⟨members, read, rfl⟩
    exact object?_eq_some_iff.1 read
  · intro read
    exact ⟨properties.members, object?_eq_some_iff.2 read, rfl⟩

/-- A section of a record, read or missing, is kept one level below the record. -/
theorem kept_of_get {names : List String} {part : Part} {given : Fields Part} {name : String}
    {properties : PropertySet} {depth : Nat} (isDepth : part.depth = depth + 2)
    (fields : Shape.fields names part = some given)
    (read : given.get name shape {} = some properties) (whole : properties.OnlyIntegers) :
    Value.Kept (depth + 1) properties.toJson := by
  unfold Fields.get at read
  split at read
  case h_1 inner found =>
    have level := depth_of_fields fields _ (Entries.mem_of_get? found)
    have value := shape_eq_some_iff.1 read
    rw [show inner.depth = depth + 1 by simp only at level; omega] at value
    exact kept_of_value? value whole
  case h_2 =>
    cases read
    exact .object List.Pairwise.nil nofun

/-- The text of a kept section is that of an object. -/
theorem ofMessage_toMessage {properties : PropertySet}
    (kept : Value.Kept greatestDepth properties.toJson) :
    ofMessage properties.toMessage = .ok properties := by
  have decoded : Utf8.decode? properties.toJson.toBytes = some properties.toJson.print :=
    Utf8.decode?_encode _
  have read : Value.read? properties.toJson.toBytes = some properties.toJson := kept.read?_toBytes
  have object : properties.toJson.asObject? = some properties.members :=
    congrArg some (TextMap.ext (TextMap.entries_ofList properties.members.ordered))
  simp only [ofMessage, toMessage, decoded, read, object]

theorem kept_of_ofMessage {message : Message} {properties : PropertySet}
    (read : ofMessage message = .ok properties) (whole : properties.OnlyIntegers) :
    Value.Kept greatestDepth properties.toJson := by
  unfold ofMessage at read
  split at read
  case h_1 => cases read
  case h_2 =>
    split at read
    case h_1 => cases read
    case h_2 value found =>
      split at read
      case h_1 members isObject =>
        cases read
        obtain ⟨document, _, isValue⟩ := Option.bind_eq_some_iff.1 found
        have object : document.object? greatestDepth = some members := by
          rw [Syntax.object?, isValue]
          exact isObject
        exact kept_of_value? (object?_eq_some_iff.1 object) whole
      case h_2 => cases read

/-- The version of a section, as a number that fits sixty-four bits with sign. -/
def HasVersion (properties : PropertySet) (version : Int) : Prop :=
  properties.members.get? versionKey = some (.number (.integer version)) ∧
    -(Word.half64 : Int) ≤ version ∧ version < Word.half64

theorem version?_eq_some_iff {properties : PropertySet} {version : Int} :
    properties.version? = some version ↔ properties.HasVersion version := by
  rw [version?, Option.bind_eq_some_iff, HasVersion, ← Word.fitsSigned_iff]
  constructor
  · rintro ⟨value, found, isVersion⟩
    unfold Value.asInt64? at isVersion
    split at isVersion
    case h_1 number =>
      obtain ⟨fits, same⟩ := Option.ite_none_right_eq_some.1 isVersion
      cases same
      exact ⟨found, fits⟩
    case h_2 => cases isVersion
  · rintro ⟨found, fits⟩
    exact ⟨_, found, by rw [Value.asInt64?, if_pos fits]⟩

/-- A message tells the version of a section, in decimal digits, if and only if the section has one. -/
structure TellsVersion (properties : PropertySet) (message : Message) : Prop where
  given : ∀ version, properties.HasVersion version →
    message.system.get? SystemProperty.version = some (Numeral.ofInt version)
  absent : (∀ version, ¬ properties.HasVersion version) →
    message.system.get? SystemProperty.version = none

theorem tellsVersion_of_get? {properties : PropertySet} {message : Message}
    (same : message.system.get? SystemProperty.version = properties.version?.map Numeral.ofInt) :
    properties.TellsVersion message where
  given version has := by rw [same, version?_eq_some_iff.2 has]; rfl
  absent none := by
    have missing : properties.version? = .none :=
      Option.eq_none_iff_forall_ne_some.2 fun version has => none version (version?_eq_some_iff.1 has)
    rw [same, missing]
    rfl

theorem tellsVersion_toMessage (properties : PropertySet) :
    properties.TellsVersion properties.toMessage := by
  apply tellsVersion_of_get?
  have free : (TextMap.empty.insert SystemProperty.contentType jsonContentType).get?
      SystemProperty.version = none := by
    rw [TextMap.get?_insert_of_ne _ _ (by decide)]
    rfl
  rw [toMessage, TextMap.get?_insert? _ free, if_pos rfl]

end PropertySet

namespace Twin

/-- A twin that was read has its sections two levels below the greatest depth. -/
theorem kept_of_ofMessage {message : Message} {twin : Twin} (read : ofMessage message = .ok twin)
    (desired : twin.desired.OnlyIntegers) (reported : twin.reported.OnlyIntegers) :
    Value.Kept 126 twin.desired.toJson ∧ Value.Kept 126 twin.reported.toJson := by
  unfold ofMessage at read
  split at read
  case h_1 found shaped =>
    cases read
    obtain ⟨document, _, isTwin⟩ := Option.bind_eq_some_iff.1 shaped
    simp only [shape, Option.bind_eq_bind, Option.bind_eq_some_iff] at isTwin
    obtain ⟨given, fields, first, one, second, two, same⟩ := isTwin
    cases same
    exact ⟨PropertySet.kept_of_get rfl fields one desired, PropertySet.kept_of_get rfl fields two reported⟩
  case h_2 => cases read

/-- A twin of kept sections is read back from its text. -/
theorem ofMessage_toMessage {twin : Twin} (stamp : String)
    (desired : Value.Kept 126 twin.desired.toJson) (reported : Value.Kept 126 twin.reported.toJson) :
    ofMessage (twin.toMessage stamp) = .ok twin := by
  obtain ⟨desiredForm, desiredBack⟩ := desired.exists_readsBack
  obtain ⟨reportedForm, reportedBack⟩ := reported.exists_readsBack
  have ordered : Entries.Ordered [("desired", twin.desired.toJson), ("reported", twin.reported.toJson)] :=
    .cons (by simp only [List.mem_singleton, forall_eq]; decide) (List.pairwise_singleton _ _)
  have readBack : ReadsBack 127 twin.toJson (.object [(Reader.textPieces "desired", desiredForm),
      (Reader.textPieces "reported", reportedForm)]) :=
    readsBack_object ordered (.cons ⟨rfl, desiredBack⟩ (.cons ⟨rfl, reportedBack⟩ .nil))
  have fields : Shape.fields ["desired", "reported"] ⟨greatestDepth, .object
      [(Reader.textPieces "desired", desiredForm), (Reader.textPieces "reported", reportedForm)]⟩ =
        some [("reported", ⟨126, reportedForm⟩), ("desired", ⟨126, desiredForm⟩)] := by
    simp [Shape.fields, greatestDepth, gatherMembers, pieceText?_textPieces]
  have one : PropertySet.shape ⟨126, desiredForm⟩ = some twin.desired :=
    PropertySet.shape_eq_some_iff.2 desiredBack.value?
  have two : PropertySet.shape ⟨126, reportedForm⟩ = some twin.reported :=
    PropertySet.shape_eq_some_iff.2 reportedBack.value?
  have read : shape.read? twin.toJson.toBytes = some twin := by
    rw [Shape.read?, readBack.syntax]
    simp [shape, fields, Fields.get, Entries.get?, one, two]
  simp only [ofMessage, toMessage, read]

theorem tellsVersion_toMessage (twin : Twin) (stamp : String) :
    twin.reported.TellsVersion (twin.toMessage stamp) := by
  apply PropertySet.tellsVersion_of_get?
  have free : ((TextMap.empty.insert SystemProperty.contentType jsonContentType).insert
      SystemProperty.enqueuedTime stamp).get? SystemProperty.version = none := by
    rw [TextMap.get?_insert_of_ne _ _ (by decide), TextMap.get?_insert_of_ne _ _ (by decide)]
    rfl
  rw [toMessage, TextMap.get?_insert? _ free, if_pos rfl]

/-- Twin documents and patches whose numbers are whole survive a conversion to a message and back.  A
twin or a patch that was read from any message is read again, unchanged, from the message that it is
written to, and that message tells the version of the section that was reported. -/
theorem documents_survive :
    (∀ (message : Message) (twin : Twin) (stamp : String), ofMessage message = .ok twin →
      twin.desired.OnlyIntegers → twin.reported.OnlyIntegers →
        ofMessage (twin.toMessage stamp) = .ok twin ∧
          twin.reported.TellsVersion (twin.toMessage stamp)) ∧
    ∀ (message : Message) (patch : PropertySet), PropertySet.ofMessage message = .ok patch →
      patch.OnlyIntegers →
        PropertySet.ofMessage patch.toMessage = .ok patch ∧ patch.TellsVersion patch.toMessage := by
  constructor
  · intro message twin stamp read desired reported
    obtain ⟨desiredKept, reportedKept⟩ := kept_of_ofMessage read desired reported
    exact ⟨ofMessage_toMessage stamp desiredKept reportedKept, tellsVersion_toMessage twin stamp⟩
  · intro message patch read whole
    have kept := PropertySet.kept_of_ofMessage read whole
    exact ⟨PropertySet.ofMessage_toMessage kept, PropertySet.tellsVersion_toMessage patch⟩

/-- A section with a version, an escaped character, one beyond the first plane and the bounds of whole
numbers. -/
def busySection : PropertySet where
  members :=
    { entries :=
        [("$version", .ofInt 7), ("bounds", .array [.ofInt (-Word.half64), .ofNat Word.greatest64]),
          ("note", .text "\u0001\"😀")]
      ordered := by
        simp only [Entries.Ordered, List.pairwise_cons, List.mem_cons, List.not_mem_nil, or_false,
          forall_eq_or_imp, forall_eq, List.Pairwise.nil, and_true, false_imp_iff, implies_true]
        decide }

theorem kept_busySection (depth : Nat) : Value.Kept (depth + 2) busySection.toJson := by
  refine .object busySection.members.ordered ?_
  intro member isIn
  simp only [busySection, List.mem_cons, List.not_mem_nil, or_false] at isIn
  rcases isIn with rfl | rfl | rfl
  · exact .integer ⟨by decide, by decide⟩
  · refine .array ?_
    intro item among
    simp only [List.mem_cons, List.not_mem_nil, or_false] at among
    rcases among with rfl | rfl <;> exact .integer ⟨by decide, by decide⟩
  · exact .text _

/-- Both halves of `documents_survive` speak of such a section. -/
theorem documents_survive_busy :
    ofMessage (toMessage { reported := busySection } "later") = .ok { reported := busySection } ∧
      PropertySet.ofMessage busySection.toMessage = .ok busySection ∧
        busySection.toMessage.system.get? SystemProperty.version = some "7" := by
  have empty : Value.Kept 126 ({} : PropertySet).toJson := .object List.Pairwise.nil nofun
  have busy : Value.Kept 126 busySection.toJson := kept_busySection 124
  have twin : ofMessage (toMessage { reported := busySection } "earlier") =
      .ok { reported := busySection } := ofMessage_toMessage "earlier" empty busy
  have patch := PropertySet.ofMessage_toMessage (kept_busySection 125)
  have first := documents_survive.1 _ _ "later" twin empty.onlyIntegers busy.onlyIntegers
  have second := documents_survive.2 _ _ patch busy.onlyIntegers
  exact ⟨first.1, second.1, second.2.given 7 ⟨rfl, by decide, by decide⟩⟩

end Twin

end DeviceGateway
