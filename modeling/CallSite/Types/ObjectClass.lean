import CallSite.Types.ValueType

/-!
# Object classes

The class of an object is the layout and behaviour tag that all objects created the same way
share.  The groups below are the candidate lists of the class predicates: `hasClass` operations
carry one of them, and a predicate on a known class is folded by looking it up there.
-/

namespace CallSite

/-- **The class of an object.**  `other` is a host class of which nothing else is known. -/
inductive ObjectClass where
  | plainObject
  | array
  | arguments
  | regExp
  | stringObject
  | function
  | proxy
  | typedArray (element : Scalar)
  | sharedTypedArray (element : Scalar)
  | outlineTransparentTypedObject
  | outlineOpaqueTypedObject
  | inlineTransparentTypedObject
  | inlineOpaqueTypedObject
  | scalarTypeDescr
  | referenceTypeDescr
  | sizedArrayTypeDescr
  | unsizedArrayTypeDescr
  | structTypeDescr
  | other (tag : UInt32)
  deriving DecidableEq, Repr, Inhabited

namespace ObjectClass

/-! ## Groups -/

def typedObjects : List ObjectClass :=
  [outlineTransparentTypedObject, outlineOpaqueTypedObject, inlineTransparentTypedObject,
    inlineOpaqueTypedObject]

def transparentTypedObjects : List ObjectClass :=
  [outlineTransparentTypedObject, inlineTransparentTypedObject]

def opaqueTypedObjects : List ObjectClass :=
  [outlineOpaqueTypedObject, inlineOpaqueTypedObject]

/-- Descriptors of types that are no aggregate. -/
def simpleTypeDescrs : List ObjectClass := [scalarTypeDescr, referenceTypeDescr]

def arrayTypeDescrs : List ObjectClass := [sizedArrayTypeDescr, unsizedArrayTypeDescr]

def sizedArrayTypeDescrs : List ObjectClass := [sizedArrayTypeDescr]

def unsizedArrayTypeDescrs : List ObjectClass := [unsizedArrayTypeDescr]

/-! ## Predicates -/

def isProxy : ObjectClass → Bool
  | proxy => true
  | _ => false

/-- Callable without going through a proxy trap. -/
def isNonProxyCallable : ObjectClass → Bool
  | function => true
  | _ => false

/-- Objects of these classes keep their elements in a dense vector. -/
def isNative : ObjectClass → Bool
  | plainObject | array | arguments | regExp | stringObject | function => true
  | _ => false

def isTypedArray : ObjectClass → Bool
  | typedArray _ => true
  | _ => false

def isSharedTypedArray : ObjectClass → Bool
  | sharedTypedArray _ => true
  | _ => false

def isTypedObject (c : ObjectClass) : Bool := typedObjects.contains c

def isTypeDescr : ObjectClass → Bool
  | scalarTypeDescr | referenceTypeDescr | sizedArrayTypeDescr | unsizedArrayTypeDescr
  | structTypeDescr => true
  | _ => false

/-! ## Text -/

/-- The name under which dumps and messages show the class. -/
def name : ObjectClass → String
  | plainObject => "PlainObject"
  | array => "Array"
  | arguments => "Arguments"
  | regExp => "RegExp"
  | stringObject => "StringObject"
  | function => "Function"
  | proxy => "Proxy"
  | typedArray s => s!"TypedArray<{s}>"
  | sharedTypedArray s => s!"SharedTypedArray<{s}>"
  | outlineTransparentTypedObject => "OutlineTransparentTypedObject"
  | outlineOpaqueTypedObject => "OutlineOpaqueTypedObject"
  | inlineTransparentTypedObject => "InlineTransparentTypedObject"
  | inlineOpaqueTypedObject => "InlineOpaqueTypedObject"
  | scalarTypeDescr => "ScalarTypeDescr"
  | referenceTypeDescr => "ReferenceTypeDescr"
  | sizedArrayTypeDescr => "SizedArrayTypeDescr"
  | unsizedArrayTypeDescr => "UnsizedArrayTypeDescr"
  | structTypeDescr => "StructTypeDescr"
  | other n => s!"Class#{n}"

instance : ToString ObjectClass := ⟨name⟩

end ObjectClass

end CallSite
