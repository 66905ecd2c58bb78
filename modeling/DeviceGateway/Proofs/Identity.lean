/-
# Identities and their texts

A text names an identity exactly if it has one or two components with a slash between them and none of
them is blank, and the identity that it names has this very text: nothing is trimmed, and nothing is lost.
Texts and identities therefore correspond one to one, whichever way an identity comes about.
-/

import DeviceGateway.Identity
import DeviceGateway.Proofs.Json.Values
import DeviceGateway.Proofs.Text.Split

namespace DeviceGateway.Identity

/-! ## Names -/

/-- Whether some character of a text is not blank. -/
def IsFilled (text : List Char) : Prop := ∃ c ∈ text, Text.isBlank c = false

/-- Whether a text is the name of a device or of a module. -/
structure IsName (name : String) : Prop where
  filled : IsFilled name.toList
  undivided : '/' ∉ name.toList

theorem isComponent_iff {name : String} : isComponent name = true ↔ IsName name := by
  rw [isComponent, Bool.and_eq_true, Bool.not_eq_true', Bool.not_eq_true',
    Text.isBlankText_eq_false_iff, ← Bool.not_eq_true, List.contains_iff_mem]
  exact ⟨fun both => ⟨both.1, both.2⟩, fun name => ⟨name.filled, name.undivided⟩⟩

theorem isName_device (identity : Identity) : IsName identity.device :=
  isComponent_iff.1 identity.device_valid

theorem isName_of_mem_module? {identity : Identity} {name : String} (hosted : name ∈ identity.module?) :
    IsName name :=
  isComponent_iff.1 (identity.module_valid name hosted)

/-- An identity is what its names are. -/
theorem eq_of_names {first second : Identity} (device : first.device = second.device)
    (name : first.module? = second.module?) : first = second := by
  cases first
  cases second
  simp only at device name
  subst device
  subst name
  rfl

theorem ofDevice_eq_ok_iff {device : String} {identity : Identity} :
    ofDevice device = .ok identity ↔ identity.device = device ∧ identity.module? = none := by
  constructor
  · intro made
    unfold ofDevice at made
    split at made
    case isTrue =>
      obtain rfl := Except.ok.inj made
      exact ⟨rfl, rfl⟩
    case isFalse => cases made
  · rintro ⟨rfl, alone⟩
    rw [ofDevice, dif_pos identity.device_valid]
    exact congrArg Except.ok (eq_of_names rfl alone.symm)

theorem ofModule_eq_ok_iff {device name : String} {identity : Identity} :
    ofModule device name = .ok identity ↔
      identity.device = device ∧ identity.module? = some name := by
  constructor
  · intro made
    unfold ofModule at made
    split at made
    case isTrue =>
      split at made
      case isTrue =>
        obtain rfl := Except.ok.inj made
        exact ⟨rfl, rfl⟩
      case isFalse => cases made
    case isFalse => cases made
  · rintro ⟨rfl, hosted⟩
    rw [ofModule, dif_pos identity.device_valid, dif_pos (identity.module_valid name hosted)]
    exact congrArg Except.ok (eq_of_names rfl hosted.symm)

theorem exists_ofDevice_iff {device : String} :
    (∃ identity, ofDevice device = .ok identity) ↔ IsName device := by
  constructor
  · rintro ⟨identity, made⟩
    rw [← (ofDevice_eq_ok_iff.1 made).1]
    exact identity.isName_device
  · intro valid
    exact ⟨_, dif_pos (isComponent_iff.2 valid)⟩

theorem exists_ofModule_iff {device name : String} :
    (∃ identity, ofModule device name = .ok identity) ↔ IsName device ∧ IsName name := by
  constructor
  · rintro ⟨identity, made⟩
    obtain ⟨rfl, hosted⟩ := ofModule_eq_ok_iff.1 made
    exact ⟨identity.isName_device, isName_of_mem_module? hosted⟩
  · rintro ⟨validDevice, validModule⟩
    rw [ofModule, dif_pos (isComponent_iff.2 validDevice), dif_pos (isComponent_iff.2 validModule)]
    exact ⟨_, rfl⟩

/-! ## Texts -/

theorem toText_of_device {identity : Identity} (alone : identity.module? = none) :
    identity.toText = identity.device := by
  rw [toText, alone]

theorem toList_toText_of_module {identity : Identity} {name : String}
    (hosted : identity.module? = some name) :
    identity.toText.toList = identity.device.toList ++ '/' :: name.toList := by
  simp [toText, hosted]

/-- The text of an identity is cut where its names meet. -/
theorem splitFirst_toText (identity : Identity) : Text.splitFirst '/' identity.toText.toList =
    identity.module?.map fun name => (identity.device.toList, name.toList) := by
  cases hosted : identity.module? with
  | none =>
    rw [toText_of_device hosted]
    exact Text.splitFirst_eq_none_iff.2 identity.isName_device.undivided
  | some name =>
    rw [toList_toText_of_module hosted]
    exact Text.splitFirst_append identity.isName_device.undivided name.toList

/-- An identity is read back from its text. -/
theorem parse_toText (identity : Identity) : parse identity.toText = .ok identity := by
  rw [parse, splitFirst_toText]
  cases hosted : identity.module? with
  | none =>
    rw [Option.map_none, toText_of_device hosted]
    exact ofDevice_eq_ok_iff.2 ⟨rfl, hosted⟩
  | some name =>
    simp only [Option.map_some, String.ofList_toList]
    exact ofModule_eq_ok_iff.2 ⟨rfl, hosted⟩

/-- Whatever is read as an identity is its text. -/
theorem toText_of_parse {text : String} {identity : Identity} (read : parse text = .ok identity) :
    identity.toText = text := by
  unfold parse at read
  split at read
  case h_1 device name cut =>
    obtain ⟨isDevice, hosted⟩ := ofModule_eq_ok_iff.1 read
    apply String.toList_inj.1
    rw [toList_toText_of_module hosted, isDevice, String.toList_ofList, String.toList_ofList,
      (Text.splitFirst_eq_some_iff.1 cut).1]
  case h_2 =>
    obtain ⟨isDevice, alone⟩ := ofDevice_eq_ok_iff.1 read
    rw [toText_of_device alone, isDevice]

theorem parse_eq_ok_iff {text : String} {identity : Identity} :
    parse text = .ok identity ↔ identity.toText = text :=
  ⟨toText_of_parse, fun same => same ▸ parse_toText identity⟩

theorem toText_injective : Function.Injective toText := by
  intro first second same
  have read := parse_toText first
  rw [same, parse_toText second] at read
  exact (Except.ok.inj read).symm

/-- Whether a text has one or two components, none of which is blank. -/
structure HasComponents (text : String) : Prop where
  count : text.toList.count '/' ≤ 1
  filled : ∀ component ∈ Text.splitAll '/' text.toList, IsFilled component

theorem hasComponents_of_undivided {text : String} (undivided : '/' ∉ text.toList) :
    HasComponents text ↔ IsName text := by
  have single := Text.splitAll_of_not_mem undivided
  constructor
  · intro has
    exact ⟨has.filled _ (by rw [single]; exact List.mem_singleton_self _), undivided⟩
  · intro name
    refine ⟨?_, ?_⟩
    · rw [List.count_eq_zero_of_not_mem undivided]
      exact Nat.zero_le 1
    · rw [single, List.forall_mem_singleton]
      exact name.filled

theorem hasComponents_of_cut {text : String} {device name : List Char}
    (cut : Text.splitFirst '/' text.toList = some (device, name)) :
    HasComponents text ↔ IsName (String.ofList device) ∧ IsName (String.ofList name) := by
  obtain ⟨whole, undivided⟩ := Text.splitFirst_eq_some_iff.1 cut
  have count : text.toList.count '/' = name.count '/' + 1 := by
    rw [whole, List.count_append, List.count_cons_self, List.count_eq_zero_of_not_mem undivided,
      Nat.zero_add]
  have pieces : Text.splitAll '/' text.toList = device :: Text.splitAll '/' name := by
    rw [whole, Text.splitAll_append undivided]
  constructor
  · rintro ⟨few, filled⟩
    have undivided' : '/' ∉ name := List.count_eq_zero.1 (by omega)
    rw [pieces, Text.splitAll_of_not_mem undivided', List.forall_mem_cons,
      List.forall_mem_singleton] at filled
    exact ⟨⟨by simpa using filled.1, by simpa using undivided⟩,
      ⟨by simpa using filled.2, by simpa using undivided'⟩⟩
  · rintro ⟨isDevice, isModule⟩
    have undivided' : '/' ∉ name := by simpa using isModule.undivided
    refine ⟨?_, ?_⟩
    · rw [count, List.count_eq_zero_of_not_mem undivided']
    · rw [pieces, Text.splitAll_of_not_mem undivided', List.forall_mem_cons,
        List.forall_mem_singleton]
      exact ⟨by simpa using isDevice.filled, by simpa using isModule.filled⟩

/-- A text is read exactly if it has one or two components, none of which is blank. -/
theorem exists_parse_iff {text : String} :
    (∃ identity, parse text = .ok identity) ↔ HasComponents text := by
  unfold parse
  split
  case h_1 device name cut => rw [exists_ofModule_iff, hasComponents_of_cut cut]
  case h_2 whole =>
    rw [exists_ofDevice_iff, hasComponents_of_undivided (Text.splitFirst_eq_none_iff.1 whole)]

/-! ## Documents -/

theorem text_eq_some_iff {part : Json.Part} {text : String} :
    Json.Shape.text part = some text ↔ part.form.value? part.depth = some (.text text) := by
  obtain ⟨depth, form⟩ := part
  cases form with
  | text pieces => simp [Json.Shape.text, Json.Syntax.value?]
  | null | bool => simp [Json.Shape.text, Json.Syntax.value?]
  | number numeral => simp [Json.Shape.text, Json.Syntax.value?]
  | array items => cases depth <;> simp [Json.Shape.text, Json.Syntax.value?]
  | object members => cases depth <;> simp [Json.Shape.text, Json.Syntax.value?]

theorem shape_eq_some_iff {part : Json.Part} {identity : Identity} :
    shape part = some identity ↔ part.form.value? part.depth = some identity.toJson := by
  have parsed {text : String} : (parse text).toOption = some identity ↔ identity.toText = text := by
    rw [← parse_eq_ok_iff]
    cases parse text <;> simp [Except.toOption]
  rw [toJson, ← text_eq_some_iff]
  change (Json.Shape.text part).bind (fun text => (parse text).toOption) = some identity ↔ _
  rw [Option.bind_eq_some_iff]
  simp only [parsed, exists_eq_right']

/-- A document is read as an identity exactly if it is the text of the identity. -/
theorem read?_eq_some_iff {document : Bytes} {identity : Identity} :
    shape.read? document = some identity ↔
      Json.Value.read? document = some identity.toJson := by
  simp only [Json.Shape.read?, Json.Value.read?, Option.bind_eq_some_iff, shape_eq_some_iff]

/-- An identity is read back from its document. -/
theorem read?_toJson (identity : Identity) : shape.read? identity.toJson.toBytes = some identity := by
  rw [read?_eq_some_iff]
  exact (Json.Value.Kept.text identity.toText).read?_toBytes

/-! ## One text for each identity -/

/-- What it means that identities are made from names, that texts are read as identities, and that each of
them gives the other back. -/
structure Corresponds (identity other : Identity) (text : String) (document : Bytes) : Prop where
  /-- Whichever way it came about, an identity has names. -/
  names : IsName identity.device ∧ ∀ name ∈ identity.module?, IsName name
  device : ∀ device, (ofDevice device = .ok identity ↔
      identity.device = device ∧ identity.module? = none) ∧
    ((∃ made, ofDevice device = .ok made) ↔ IsName device)
  hosted : ∀ device name, (ofModule device name = .ok identity ↔
      identity.device = device ∧ identity.module? = some name) ∧
    ((∃ made, ofModule device name = .ok made) ↔ IsName device ∧ IsName name)
  /-- A text is read as the identity that has this very text, and it is read if it has components. -/
  parse : (parse text = .ok identity ↔ identity.toText = text) ∧
    ((∃ read, parse text = .ok read) ↔ HasComponents text)
  /-- A document is read as the identity whose text it is. -/
  read : shape.read? document = some identity ↔
    Json.Value.read? document = some (.text identity.toText)
  parse_toText : Identity.parse identity.toText = .ok identity
  read_toJson : shape.read? identity.toJson.toBytes = some identity
  equal : identity = other ↔ identity.toText = other.toText

/-- Identities and the texts with one or two components, none of them blank, correspond one to one. -/
theorem corresponds_text (identity other : Identity) (text : String) (document : Bytes) :
    Corresponds identity other text document where
  names := ⟨identity.isName_device, fun _ => isName_of_mem_module?⟩
  device := fun _ => ⟨ofDevice_eq_ok_iff, exists_ofDevice_iff⟩
  hosted := fun _ _ => ⟨ofModule_eq_ok_iff, exists_ofModule_iff⟩
  parse := ⟨parse_eq_ok_iff, exists_parse_iff⟩
  read := read?_eq_some_iff
  parse_toText := identity.parse_toText
  read_toJson := identity.read?_toJson
  equal := toText_injective.eq_iff.symm

/-- A second slash is not a part of the name of a module. -/
example : (parse "thermometer/probe/left").toOption = none := by decide

/-- Blanks around a name belong to it. -/
example : (parse " thermometer /probe").toOption.map toText = some " thermometer /probe" := by decide

end DeviceGateway.Identity
