import BeanPath.Container.Table

/-!
# Declaring beans by example

A sample is a bean together with its blank record.  The blank record declares the fields: each has
the type of its blank value.  Methods are written as functions on records, which read and replace
fields by name.
-/

namespace BeanPath

namespace Value

/-- The characters of a text; other values have none. -/
def asText : Value → String
  | .atom (.text s) => s
  | _ => ""

/-- The number of an integer; other values count as zero. -/
def asInt : Value → Int
  | .atom (.int _ n) => n
  | _ => 0

/-- The truth of a truth value; other values count as false. -/
def asTruth : Value → Bool
  | .atom (.bool b) => b
  | _ => false

/-- The items of a sequence; other values have none. -/
def asItems : Value → List Value
  | .seq _ items => items
  | _ => []

/-- An optional with or without content. -/
def ofOption (inner : Ty) : Option Value → Value
  | some v => .present v
  | none => .absent inner

/-- The field of a bean, or an absent value of any type. -/
def fieldOf (name : String) : Value → Value
  | .bean _ fields _ => (fields.lookup name).getD (.absent .any)
  | _ => .absent .any

end Value

namespace Record

/-- The field of a name, visible or hidden. -/
def get (r : Record) (name : String) : Value :=
  (r.fields.lookup name <|> r.hidden.lookup name).getD (.absent .any)

/-- Replaces the field of a name, visible or hidden. -/
def put (r : Record) (name : String) (v : Value) : Record :=
  ⟨updateFirst (fun f => f.1 == name) (fun f => (f.1, v)) r.fields,
    updateFirst (fun f => f.1 == name) (fun f => (f.1, v)) r.hidden⟩

/-- The text of a field. -/
def text (r : Record) (name : String) : String := (r.get name).asText

/-- The number of a field. -/
def int (r : Record) (name : String) : Int := (r.get name).asInt

/-- The truth of a field. -/
def truth (r : Record) (name : String) : Bool := (r.get name).asTruth

end Record

namespace Method

/-- A getter that does not fail. -/
def reading (name : String) (ty : Ty) (f : Record → Value) : Method :=
  ⟨name, ty, .getter fun r => .ok (f r)⟩

/-- A getter that may fail. -/
def tryReading (name : String) (ty : Ty) (f : Record → Except ExternalError Value) : Method :=
  ⟨name, ty, .getter f⟩

/-- A setter that does not fail. -/
def storing (name : String) (ty : Ty) (f : Record → Value → Record) : Method :=
  ⟨name, ty, .setter fun r v => .ok (f r v)⟩

/-- A setter that may fail. -/
def tryStoring (name : String) (ty : Ty) (f : Record → Value → Except ExternalError Record) :
    Method :=
  ⟨name, ty, .setter f⟩

/-- A getter of a field. -/
def readingField (name : String) (ty : Ty) (field : String) : Method :=
  reading name ty fun r => r.get field

/-- A setter of a field. -/
def storingField (name : String) (ty : Ty) (field : String) : Method :=
  storing name ty fun r v => r.put field v

end Method

/-- A bean and its blank record. -/
structure Sample where
  bean : Bean
  blank : Record

namespace Sample

/-- The modules in which samples are declared. -/
def home : String := "oracle_driver::fx::"

/-- Declares a bean by a blank record. -/
def declare (name : String) (fields : List (String × Value)) (methods : List Method) : Sample :=
  { bean :=
      { path := home ++ name
        fields := fields.map fun (n, v) => ⟨n, v.ty⟩
        methods }
    blank := ⟨fields, []⟩ }

/-- Embeds the parent in a field. -/
def withParent (s : Sample) (field : String) : Sample :=
  { s with bean := { s.bean with parent := some field } }

/-- Adds a constructor from text. -/
def withText (s : Sample) (make : TextConstructor) : Sample :=
  { s with bean := { s.bean with fromText := some make } }

/-- Adds fields that only methods see. -/
def withHidden (s : Sample) (hidden : List (String × Value)) : Sample :=
  { s with blank := { s.blank with hidden } }

/-- Declares further fields, which instances do not have. -/
def withPhantoms (s : Sample) (fields : List Field) : Sample :=
  { s with bean := { s.bean with fields := s.bean.fields ++ fields } }

/-- The type of a sample. -/
def ty (s : Sample) : Ty := .bean s.bean.path

/-- The blank instance of a sample. -/
def value (s : Sample) : Value := s.blank.value s.bean.path

end Sample
end BeanPath
