import RenkuNotebooks.Foundation.Json

/-!
# Errors of the notebook service

The error classes of `renku_notebooks/errors`, each with the message, code, detail and status
that an instance carries, and the responses that the central exception handler makes of them.
-/

namespace RenkuNotebooks.Notebooks

inductive ErrorClass where
  | genericError
  | userInputError
  | missingResourceError
  | overriddenEnvironmentVariableError
  | programmingError
  | duplicateEnvironmentVariableError
  | intermittentError
  | deleteServerError
  | cannotStartServerError
  | jsCacheError
  | retryTimeoutError
  | patchServerError
  | pvDisabledError
  | anonymousUserPatchError
  | imageParseError
  | invalidComputeResourceError
  | configurationError
  | authenticationError
  | invalidCloudStorageConfiguration
  deriving DecidableEq, Repr

structure GenericError where
  errorClass : ErrorClass := .genericError
  message : String := "Something went wrong."
  code : Int := 2000
  detail : Option String := none
  statusCode : Nat := 500
  deriving DecidableEq, Repr

def userInputError (message : String) (detail : Option String) : GenericError :=
  { errorClass := .userInputError, message, code := 1000, detail, statusCode := 422 }

def missingResourceError (message : String) : GenericError :=
  { errorClass := .missingResourceError, message, code := 1000 + 404, statusCode := 404 }

def overriddenEnvironmentVariableError (message : String) : GenericError :=
  { errorClass := .overriddenEnvironmentVariableError, message, code := 1000 + 4,
    statusCode := 422 }

def programmingError (message detail : String) : GenericError :=
  { errorClass := .programmingError, message, code := 2000, detail := some detail }

def maintainersDetail : String := "Please report this to the Renku maintainers."

def duplicateEnvironmentVariableError (message : String) : GenericError :=
  { errorClass := .duplicateEnvironmentVariableError, message, code := 2000 + 3,
    detail := some maintainersDetail }

/-- The detail that every intermittent error inherits. -/
def administratorDetail : String := "If this problem persists please contact your administrator."

def intermittentError (message : String) : GenericError :=
  { errorClass := .intermittentError, message, code := 3000, detail := some administratorDetail }

def deleteServerError : GenericError :=
  { errorClass := .deleteServerError,
    message := "The server cannot be deleted, most likely due to problems with the underlying infrastructure.",
    code := 3000 + 1, detail := some administratorDetail }

def cannotStartServerError (message : String) : GenericError :=
  { errorClass := .cannotStartServerError, message, code := 3000 + 2,
    detail := some administratorDetail }

def jsCacheError (message : String) : GenericError :=
  { errorClass := .jsCacheError, message, code := 3000 + 3, detail := some administratorDetail }

/-- The class is no dataclass of its own: an instance gets the code of its parent. -/
def retryTimeoutError (message : String) : GenericError :=
  { errorClass := .retryTimeoutError, message, code := 3000, detail := some administratorDetail }

def patchServerError : GenericError :=
  { errorClass := .patchServerError, message := "The server cannot be patched.",
    code := 3000 + 5, detail := some administratorDetail }

def pvDisabledError : GenericError :=
  { errorClass := .pvDisabledError, message := "Persistent Volumes aren't enabled in the config.",
    code := 3000 + 6, detail := some administratorDetail }

def anonymousUserPatchError : GenericError :=
  { errorClass := .anonymousUserPatchError,
    message := "Cannot patch sessions of anonymous users.",
    code := 3000 + 7, detail := some administratorDetail, statusCode := 422 }

def imageParseError (message : String) : GenericError :=
  { errorClass := .imageParseError, message, code := 1000 + 2, statusCode := 422 }

def invalidComputeResourceError (message : String) : GenericError :=
  { errorClass := .invalidComputeResourceError, message, code := 1000 + 5, statusCode := 422 }

def authenticationError (message : String) : GenericError :=
  { errorClass := .authenticationError, message, code := 1000 + 401, statusCode := 401 }

def invalidCloudStorageConfiguration (message : String) : GenericError :=
  { errorClass := .invalidCloudStorageConfiguration, message, code := 1000 + 6, statusCode := 422 }

def configurationError (message : String) : GenericError :=
  { errorClass := .configurationError, message, code := 2000 + 1,
    detail := some "Please contact your administrator." }

/-- What a Python function can raise here. -/
inductive PyError where
  | generic (e : GenericError)
  | apiException (status : Nat)
  | validationError (message : String)
  | attributeError
  | keyError (key : String)
  | typeError
  | valueError
  | indexError
  | runtimeError (message : String)
  | requestException
  deriving DecidableEq, Repr

structure Response where
  body : Json
  status : Nat
  deriving DecidableEq, Repr

/-- `ErrorResponseFromGenericError().dump`. -/
def errorBody (e : GenericError) : Json :=
  .obj [("error", .obj [("message", e.message),
    ("detail", e.detail.elim .null .str), ("code", e.code)])]

def handleException : PyError → Response
  | .generic e => { body := errorBody e, status := e.statusCode }
  | _ => { body := errorBody {}, status := 500 }

end RenkuNotebooks.Notebooks
