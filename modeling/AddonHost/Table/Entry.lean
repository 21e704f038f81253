/-!
The entries of a host table.

A host offers up to 24 entry points: 22 that return a status, the registration of a module, and the
report of a fatal error.
-/

namespace AddonHost

/-- An entry point of a host, in the order in which a table lists them. -/
inductive Entry where
  | createObject
  | getUndefined
  | getGlobal
  | callFunction
  | createReference
  | deleteReference
  | getReferenceValue
  | addEnvCleanupHook
  | removeEnvCleanupHook
  | addAsyncCleanupHook
  | removeAsyncCleanupHook
  | createAsyncWork
  | deleteAsyncWork
  | queueAsyncWork
  | cancelAsyncWork
  | createThreadsafeFunction
  | getThreadsafeFunctionContext
  | callThreadsafeFunction
  | acquireThreadsafeFunction
  | releaseThreadsafeFunction
  | refThreadsafeFunction
  | unrefThreadsafeFunction
  | moduleRegister
  | fatalError
  deriving DecidableEq, Repr, Inhabited

namespace Entry

/-- Every entry, in the order of a table. -/
def all : List Entry :=
  [createObject, getUndefined, getGlobal, callFunction, createReference, deleteReference,
    getReferenceValue, addEnvCleanupHook, removeEnvCleanupHook, addAsyncCleanupHook,
    removeAsyncCleanupHook, createAsyncWork, deleteAsyncWork, queueAsyncWork, cancelAsyncWork,
    createThreadsafeFunction, getThreadsafeFunctionContext, callThreadsafeFunction,
    acquireThreadsafeFunction, releaseThreadsafeFunction, refThreadsafeFunction,
    unrefThreadsafeFunction, moduleRegister, fatalError]

/-- The name under which an addon links against an entry. -/
def name : Entry → String
  | createObject => "napi_create_object"
  | getUndefined => "napi_get_undefined"
  | getGlobal => "napi_get_global"
  | callFunction => "napi_call_function"
  | createReference => "napi_create_reference"
  | deleteReference => "napi_delete_reference"
  | getReferenceValue => "napi_get_reference_value"
  | addEnvCleanupHook => "napi_add_env_cleanup_hook"
  | removeEnvCleanupHook => "napi_remove_env_cleanup_hook"
  | addAsyncCleanupHook => "napi_add_async_cleanup_hook"
  | removeAsyncCleanupHook => "napi_remove_async_cleanup_hook"
  | createAsyncWork => "napi_create_async_work"
  | deleteAsyncWork => "napi_delete_async_work"
  | queueAsyncWork => "napi_queue_async_work"
  | cancelAsyncWork => "napi_cancel_async_work"
  | createThreadsafeFunction => "napi_create_threadsafe_function"
  | getThreadsafeFunctionContext => "napi_get_threadsafe_function_context"
  | callThreadsafeFunction => "napi_call_threadsafe_function"
  | acquireThreadsafeFunction => "napi_acquire_threadsafe_function"
  | releaseThreadsafeFunction => "napi_release_threadsafe_function"
  | refThreadsafeFunction => "napi_ref_threadsafe_function"
  | unrefThreadsafeFunction => "napi_unref_threadsafe_function"
  | moduleRegister => "napi_module_register"
  | fatalError => "napi_fatal_error"

/-- The entry of a given name. -/
def ofName? (s : String) : Option Entry := all.find? (·.name == s)

/-- The eleven entries that the runtime supplies. -/
def ofRuntime : Entry → Bool
  | createAsyncWork | deleteAsyncWork | queueAsyncWork | cancelAsyncWork
  | createThreadsafeFunction | getThreadsafeFunctionContext | callThreadsafeFunction
  | acquireThreadsafeFunction | releaseThreadsafeFunction | refThreadsafeFunction
  | unrefThreadsafeFunction => true
  | _ => false

theorem mem_all (e : Entry) : e ∈ all := by
  cases e <;> simp [all]

end Entry

end AddonHost
