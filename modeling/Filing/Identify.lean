import Filing.Store.Error

/-!
Reading identifiers from text. The drive is looked at before the name, and a text that is no segment
is reported as it was given. A displayed identifier reads back as itself.
-/
namespace Filing

def Segment.ofText (text : String) : Except StoreError Segment :=
  match ofText? text with
  | some segment => .ok segment
  | none => .error (.invalidId text)

namespace EntityId

def ofTexts (drive name : String) : Except StoreError EntityId :=
  match Segment.ofText drive with
  | .error error => .error error
  | .ok drive =>
    match Segment.ofText name with
    | .error error => .error error
    | .ok name => .ok ⟨drive, name⟩

/-- The identifier of another name in the same drive. -/
def sibling (id : EntityId) (name : String) : Except StoreError EntityId :=
  ofTexts id.drive.text name

/-- What stands before and after the first separator, if there is one. -/
def splitDisplay (text : String) : Option (String × String) :=
  match text.toList.dropWhile (· ≠ separator) with
  | [] => none
  | _ :: name => some (String.ofList (text.toList.takeWhile (· ≠ separator)), String.ofList name)

@[simp] theorem ofTexts_texts (id : EntityId) : ofTexts id.drive.text id.name.text = .ok id := by
  simp [ofTexts, Segment.ofText]

end EntityId

end Filing
