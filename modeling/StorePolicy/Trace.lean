/-!
# Results with a trace

What is read of the files and reported on the side while a result is found: log lines, each
with a level and a message, the paths that were only located, the paths that were looked at or
opened, and the folders that were listed, in order.
-/
namespace StorePolicy.Log

inductive Level where
  | error
  | warn
  | info
  | debug
  | trace
deriving DecidableEq

def Level.name : Level → String
  | .error => "ERROR"
  | .warn => "WARN"
  | .info => "INFO"
  | .debug => "DEBUG"
  | .trace => "TRACE"

structure Line where
  level : Level
  message : String
deriving DecidableEq

end StorePolicy.Log

namespace StorePolicy

inductive Event where
  | logged (line : Log.Line)
  | located (path : String)
  | opened (path : String)
  | listed (folder : String)
deriving DecidableEq

structure Traced (α : Type) where
  value : α
  trace : List Event

namespace Traced

variable {α β : Type}

instance : Monad Traced where
  pure a := ⟨a, []⟩
  bind x f := ⟨(f x.value).value, x.trace ++ (f x.value).trace⟩

def log (level : Log.Level) (message : String) : Traced Unit := ⟨(), [.logged ⟨level, message⟩]⟩

def logAll (lines : List Log.Line) : Traced Unit := ⟨(), lines.map .logged⟩

def noteLocated (path : String) : Traced Unit := ⟨(), [.located path]⟩

def noteOpened (path : String) : Traced Unit := ⟨(), [.opened path]⟩

def noteListed (folder : String) : Traced Unit := ⟨(), [.listed folder]⟩

def lines (x : Traced α) : List Log.Line :=
  x.trace.filterMap fun
    | .logged line => some line
    | _ => none

@[simp] theorem value_pure (a : α) : (pure a : Traced α).value = a := rfl

@[simp] theorem trace_pure (a : α) : (pure a : Traced α).trace = [] := rfl

@[simp] theorem value_bind (x : Traced α) (f : α → Traced β) :
    (x >>= f).value = (f x.value).value := rfl

@[simp] theorem trace_bind (x : Traced α) (f : α → Traced β) :
    (x >>= f).trace = x.trace ++ (f x.value).trace := rfl

theorem lines_bind (x : Traced α) (f : α → Traced β) :
    (x >>= f).lines = x.lines ++ (f x.value).lines := by simp [lines]

end Traced
end StorePolicy
