import SchemaDecls.Value.Basic

/-!
# Options

Three options control what is written: a banner for the top of the file, whether enums are constant,
and whether interfaces other than the root's are declared. Any value may be given for each; it is
kept as it is and counts as a yes or no by `Value.truthy`.

Each option goes by two names. Where both are given, the later entry of the dictionary counts, and
entries under any other name count for nothing.
-/

namespace SchemaDecls

/-- The options. -/
inductive OptionKey where
  | banner
  | constEnums
  | declareReferenced
deriving DecidableEq, Repr

namespace OptionKey

/-- The name under which an option is reported. -/
def name : OptionKey → String
  | .banner => "banner_comment"
  | .constEnums => "enable_const_enums"
  | .declareReferenced => "declare_externally_referenced"

/-- The other name under which an option may be given. -/
def otherName : OptionKey → String
  | .banner => "bannerComment"
  | .constEnums => "enableConstEnums"
  | .declareReferenced => "declareExternallyReferenced"

/-- All options, in the order in which they are reported. -/
def all : List OptionKey := [.banner, .constEnums, .declareReferenced]

/-- The option that goes by this name. -/
def ofName? (s : String) : Option OptionKey :=
  all.find? fun key => s == key.name || s == key.otherName

end OptionKey

/-- A value for each option. -/
structure Options where
  /-- What stands at the top of the file; nothing, if it counts as false. -/
  banner : Value
  /-- Enums are declared constant. -/
  constEnums : Value
  /-- Named interfaces are declared wherever they are met, and not only under the root's name. -/
  declareReferenced : Value

namespace Options

/-- The banner that is written when none is given. -/
def defaultBanner : String :=
  "/* tslint:disable */\n/**\n * This file was automatically generated by json_schema_to_ts.\n" ++
  " * DO NOT MODIFY IT BY HAND. Instead, modify the source JSON Schema file,\n" ++
  " * and run json_schema_to_ts to regenerate this file.\n */"

/-- The options when none are given. -/
def default : Options := ⟨.str defaultBanner, .bool true, .bool true⟩

instance : Inhabited Options := ⟨default⟩

/-- The value of an option. -/
def get (o : Options) : OptionKey → Value
  | .banner => o.banner
  | .constEnums => o.constEnums
  | .declareReferenced => o.declareReferenced

/-- The options with a new value for one of them. -/
def set (o : Options) (key : OptionKey) (v : Value) : Options :=
  match key with
  | .banner => { o with banner := v }
  | .constEnums => { o with constEnums := v }
  | .declareReferenced => { o with declareReferenced := v }

@[simp] theorem get_set_self (o : Options) (key : OptionKey) (v : Value) :
    (o.set key v).get key = v := by
  cases key <;> rfl

theorem get_set_of_ne (o : Options) {key other : OptionKey} (v : Value) (h : other ≠ key) :
    (o.set key v).get other = o.get other := by
  cases key <;> cases other <;> simp_all [get, set]

/-- Takes over the entry of a dictionary if its key is the name of an option. -/
def takeEntry (o : Options) (entry : String × Value) : Options :=
  match OptionKey.ofName? entry.1 with
  | some key => o.set key entry.2
  | none => o

/-- The options that a dictionary gives, with the default for each that it does not name. -/
def ofEntries (entries : List (String × Value)) : Options := entries.foldl takeEntry default

/-- The options that a list of pairs gives, read as an ordered dictionary. -/
def ofPairs (pairs : List (String × Value)) : Options := ofEntries (Dictionary.ofPairs pairs)

/-- The dictionary that reports the options. -/
def toEntries (o : Options) : List (String × Value) :=
  OptionKey.all.map fun key => (key.name, o.get key)

/-- Reading the reported dictionary gives the options back. -/
theorem ofEntries_toEntries (o : Options) : ofEntries o.toEntries = o := rfl

end Options

end SchemaDecls
