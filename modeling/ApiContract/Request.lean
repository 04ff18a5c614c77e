import ApiContract.Text.Ascii
import ApiContract.Vocabulary.Action
import ApiContract.Vocabulary.Family
import ApiContract.Vocabulary.Multiplicity
import ApiContract.Vocabulary.Operation
import ApiContract.Vocabulary.Requirement
import ApiContract.Vocabulary.Resource
import ApiContract.Vocabulary.Verb

set_option autoImplicit false

namespace ApiContract

structure Param where
  name : String
  typeName : String
  componentType : Option String := none
  nullable : Bool := false
  deriving DecidableEq

def voidType : String := "void"

def stringType : String := "java.lang.String"

def uuidType : String := "java.util.UUID"

def Param.isVoid (p : Param) : Bool :=
  Text.sameIgnoringCase p.typeName voidType

structure ResponseType where
  typeName : String
  componentType : Option String := none
  deriving DecidableEq

structure ResponseCode where
  code : UInt16
  types : List ResponseType := []
  deriving DecidableEq

def ResponseCode.isMultiple (rc : ResponseCode) : Bool :=
  1 < rc.types.length

structure Request where
  name : String
  verb : Option Verb := none
  family : Family
  bucket : Option Requirement := none
  object : Option Requirement := none
  action : Option Action := none
  resource : Option Resource := none
  multiplicity : Option Multiplicity := none
  operation : Option Operation := none
  includeInPath : Bool := false
  responseCodes : List ResponseCode := []
  optionalParams : List Param := []
  requiredParams : List Param := []
  deriving DecidableEq

namespace Request

def effectiveVerb (r : Request) : Option Verb :=
  r.verb <|> r.action.bind Action.verb?

def requiresBucket (r : Request) : Bool :=
  r.bucket == some .required

def requiresObject (r : Request) : Bool :=
  r.object == some .required

-- Internal requests are in no client.
def isInternal (r : Request) : Bool :=
  r.family == .internal

def responseCode? (r : Request) (code : UInt16) : Option ResponseCode :=
  r.responseCodes.find? (·.code == code)

def allParams (r : Request) : List Param :=
  r.optionalParams ++ r.requiredParams

def responseTypes (r : Request) : List ResponseType :=
  r.responseCodes.flatMap (·.types)

def hasMultipleTypes (r : Request) : Bool :=
  r.responseCodes.any (·.isMultiple)

end Request

end ApiContract
