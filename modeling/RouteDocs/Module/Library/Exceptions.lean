import RouteDocs.Module.Library.Kind

namespace RouteDocs.Module.Library

/-- Members of an exception that is made and set up in its own way. -/
def makingMembers : List Member := [
  ⟨"__new__", .staticMethod,
    "Create and return a new object.  See help(type) for accurate signature."⟩,
  ⟨"__init__", .method, "Initialize self.  See help(type(self)) for accurate signature."⟩]

def attributeErrorMembers : List Member := [
  ⟨"__str__", .method, "Return str(self)."⟩,
  ⟨"__init__", .method, "Initialize self.  See help(type(self)) for accurate signature."⟩,
  ⟨"name", .field, "attribute name"⟩,
  ⟨"obj", .field, "object"⟩]

def baseExceptionMembers : List Member := [
  ⟨"__new__", .staticMethod,
    "Create and return a new object.  See help(type) for accurate signature."⟩,
  ⟨"__repr__", .method, "Return repr(self)."⟩,
  ⟨"__str__", .method, "Return str(self)."⟩,
  ⟨"__getattribute__", .method, "Return getattr(self, name)."⟩,
  ⟨"__setattr__", .method, "Implement setattr(self, name, value)."⟩,
  ⟨"__delattr__", .method, "Implement delattr(self, name)."⟩,
  ⟨"__init__", .method, "Initialize self.  See help(type(self)) for accurate signature."⟩,
  ⟨"__reduce__", .method, ""⟩,
  ⟨"__setstate__", .method, ""⟩,
  ⟨"with_traceback", .method,
    "Exception.with_traceback(tb) --\n    set self.__traceback__ to tb and return self."⟩,
  ⟨"add_note", .method, "Exception.add_note(note) --\n    add a note to the exception"⟩,
  ⟨"__suppress_context__", .field, ""⟩,
  ⟨"__dict__", .field, ""⟩,
  ⟨"args", .field, ""⟩,
  ⟨"__traceback__", .field, ""⟩,
  ⟨"__context__", .field, "exception context"⟩,
  ⟨"__cause__", .field, "exception cause"⟩]

def baseExceptionGroupMembers : List Member := [
  ⟨"__new__", .staticMethod,
    "Create and return a new object.  See help(type) for accurate signature."⟩,
  ⟨"__str__", .method, "Return str(self)."⟩,
  ⟨"__init__", .method, "Initialize self.  See help(type(self)) for accurate signature."⟩,
  ⟨"__class_getitem__", .classMethod, "See PEP 585"⟩,
  ⟨"derive", .method, ""⟩,
  ⟨"split", .method, ""⟩,
  ⟨"subgroup", .method, ""⟩,
  ⟨"message", .field, "exception message"⟩,
  ⟨"exceptions", .field, "nested exceptions"⟩]

/-- Members of an exception that is set up in its own way. -/
def initialMembers : List Member := [
  ⟨"__init__", .method, "Initialize self.  See help(type(self)) for accurate signature."⟩]

def exceptionGroupMembers : List Member := [
  ⟨"__module__", .value, ""⟩,
  ⟨"__weakref__", .field, "list of weak references to the object"⟩]

def importErrorMembers : List Member := [
  ⟨"__str__", .method, "Return str(self)."⟩,
  ⟨"__init__", .method, "Initialize self.  See help(type(self)) for accurate signature."⟩,
  ⟨"__reduce__", .method, ""⟩,
  ⟨"msg", .field, "exception message"⟩,
  ⟨"name", .field, "module name"⟩,
  ⟨"path", .field, "module path"⟩]

def keyErrorMembers : List Member := [
  ⟨"__str__", .method, "Return str(self)."⟩,
  ⟨"__init__", .method, "Initialize self.  See help(type(self)) for accurate signature."⟩]

def nameErrorMembers : List Member := [
  ⟨"__str__", .method, "Return str(self)."⟩,
  ⟨"__init__", .method, "Initialize self.  See help(type(self)) for accurate signature."⟩,
  ⟨"name", .field, "name"⟩]

def osErrorMembers : List Member := [
  ⟨"__new__", .staticMethod,
    "Create and return a new object.  See help(type) for accurate signature."⟩,
  ⟨"__str__", .method, "Return str(self)."⟩,
  ⟨"__init__", .method, "Initialize self.  See help(type(self)) for accurate signature."⟩,
  ⟨"__reduce__", .method, ""⟩,
  ⟨"errno", .field, "POSIX exception code"⟩,
  ⟨"strerror", .field, "exception strerror"⟩,
  ⟨"filename", .field, "exception filename"⟩,
  ⟨"filename2", .field, "second exception filename"⟩,
  ⟨"characters_written", .field, ""⟩]

def stopIterationMembers : List Member := [
  ⟨"__init__", .method, "Initialize self.  See help(type(self)) for accurate signature."⟩,
  ⟨"value", .field, "generator return value"⟩]

def syntaxErrorMembers : List Member := [
  ⟨"__str__", .method, "Return str(self)."⟩,
  ⟨"__init__", .method, "Initialize self.  See help(type(self)) for accurate signature."⟩,
  ⟨"msg", .field, "exception msg"⟩,
  ⟨"filename", .field, "exception filename"⟩,
  ⟨"lineno", .field, "exception lineno"⟩,
  ⟨"offset", .field, "exception offset"⟩,
  ⟨"text", .field, "exception text"⟩,
  ⟨"end_lineno", .field, "exception end lineno"⟩,
  ⟨"end_offset", .field, "exception end offset"⟩,
  ⟨"print_file_and_line", .field, "exception print_file_and_line"⟩]

def systemExitMembers : List Member := [
  ⟨"__init__", .method, "Initialize self.  See help(type(self)) for accurate signature."⟩,
  ⟨"code", .field, "exception code"⟩]

def unicodeDecodeErrorMembers : List Member := [
  ⟨"__new__", .staticMethod,
    "Create and return a new object.  See help(type) for accurate signature."⟩,
  ⟨"__str__", .method, "Return str(self)."⟩,
  ⟨"__init__", .method, "Initialize self.  See help(type(self)) for accurate signature."⟩,
  ⟨"encoding", .field, "exception encoding"⟩,
  ⟨"object", .field, "exception object"⟩,
  ⟨"start", .field, "exception start"⟩,
  ⟨"end", .field, "exception end"⟩,
  ⟨"reason", .field, "exception reason"⟩]

def unicodeEncodeErrorMembers : List Member := [
  ⟨"__new__", .staticMethod,
    "Create and return a new object.  See help(type) for accurate signature."⟩,
  ⟨"__str__", .method, "Return str(self)."⟩,
  ⟨"__init__", .method, "Initialize self.  See help(type(self)) for accurate signature."⟩,
  ⟨"encoding", .field, "exception encoding"⟩,
  ⟨"object", .field, "exception object"⟩,
  ⟨"start", .field, "exception start"⟩,
  ⟨"end", .field, "exception end"⟩,
  ⟨"reason", .field, "exception reason"⟩]

def unicodeTranslateErrorMembers : List Member := [
  ⟨"__new__", .staticMethod,
    "Create and return a new object.  See help(type) for accurate signature."⟩,
  ⟨"__str__", .method, "Return str(self)."⟩,
  ⟨"__init__", .method, "Initialize self.  See help(type(self)) for accurate signature."⟩,
  ⟨"encoding", .field, "exception encoding"⟩,
  ⟨"object", .field, "exception object"⟩,
  ⟨"start", .field, "exception start"⟩,
  ⟨"end", .field, "exception end"⟩,
  ⟨"reason", .field, "exception reason"⟩]

/-- The classes of exceptions that every module can name. -/
def exceptionClasses : List ClassInfo := [
  ⟨"ArithmeticError", ["Exception"], "Base class for arithmetic errors.", makingMembers⟩,
  ⟨"AssertionError", ["Exception"], "Assertion failed.", makingMembers⟩,
  ⟨"AttributeError", ["Exception"], "Attribute not found.", attributeErrorMembers⟩,
  ⟨"BaseException", ["object"], "Common base class for all exceptions", baseExceptionMembers⟩,
  ⟨"BaseExceptionGroup", ["BaseException"],
    "A combination of multiple unrelated exceptions.", baseExceptionGroupMembers⟩,
  ⟨"BlockingIOError", ["OSError"], "I/O operation would block.", initialMembers⟩,
  ⟨"BrokenPipeError", ["ConnectionError"], "Broken pipe.", initialMembers⟩,
  ⟨"BufferError", ["Exception"], "Buffer error.", makingMembers⟩,
  ⟨"BytesWarning", ["Warning"],
    "Base class for warnings about bytes and buffer related problems, mostly\nrelated to " ++
    "conversion from str or comparing to str.", makingMembers⟩,
  ⟨"ChildProcessError", ["OSError"], "Child process error.", initialMembers⟩,
  ⟨"ConnectionAbortedError", ["ConnectionError"], "Connection aborted.", initialMembers⟩,
  ⟨"ConnectionError", ["OSError"], "Connection error.", initialMembers⟩,
  ⟨"ConnectionRefusedError", ["ConnectionError"], "Connection refused.", initialMembers⟩,
  ⟨"ConnectionResetError", ["ConnectionError"], "Connection reset.", initialMembers⟩,
  ⟨"DeprecationWarning", ["Warning"],
    "Base class for warnings about deprecated features.", makingMembers⟩,
  ⟨"EOFError", ["Exception"], "Read beyond end of file.", makingMembers⟩,
  ⟨"EncodingWarning", ["Warning"], "Base class for warnings about encodings.", makingMembers⟩,
  ⟨"Exception", ["BaseException"],
    "Common base class for all non-exit exceptions.", makingMembers⟩,
  ⟨"ExceptionGroup", ["BaseExceptionGroup", "Exception"], "", exceptionGroupMembers⟩,
  ⟨"FileExistsError", ["OSError"], "File already exists.", initialMembers⟩,
  ⟨"FileNotFoundError", ["OSError"], "File not found.", initialMembers⟩,
  ⟨"FloatingPointError", ["ArithmeticError"], "Floating point operation failed.", makingMembers⟩,
  ⟨"FutureWarning", ["Warning"],
    "Base class for warnings about constructs that will change semantically\nin the future.",
    makingMembers⟩,
  ⟨"GeneratorExit", ["BaseException"], "Request that a generator exit.", makingMembers⟩,
  ⟨"ImportError", ["Exception"],
    "Import can't find module, or can't find name in module.", importErrorMembers⟩,
  ⟨"ImportWarning", ["Warning"],
    "Base class for warnings about probable mistakes in module imports", makingMembers⟩,
  ⟨"IndentationError", ["SyntaxError"], "Improper indentation.", initialMembers⟩,
  ⟨"IndexError", ["LookupError"], "Sequence index out of range.", makingMembers⟩,
  ⟨"InterruptedError", ["OSError"], "Interrupted by signal.", initialMembers⟩,
  ⟨"IsADirectoryError", ["OSError"], "Operation doesn't work on directories.", initialMembers⟩,
  ⟨"KeyError", ["LookupError"], "Mapping key not found.", keyErrorMembers⟩,
  ⟨"KeyboardInterrupt", ["BaseException"], "Program interrupted by user.", makingMembers⟩,
  ⟨"LookupError", ["Exception"], "Base class for lookup errors.", makingMembers⟩,
  ⟨"MemoryError", ["Exception"], "Out of memory.", makingMembers⟩,
  ⟨"ModuleNotFoundError", ["ImportError"], "Module not found.", initialMembers⟩,
  ⟨"NameError", ["Exception"], "Name not found globally.", nameErrorMembers⟩,
  ⟨"NotADirectoryError", ["OSError"], "Operation only works on directories.", initialMembers⟩,
  ⟨"NotImplementedError", ["RuntimeError"],
    "Method or function hasn't been implemented yet.", makingMembers⟩,
  ⟨"OSError", ["Exception"], "Base class for I/O related errors.", osErrorMembers⟩,
  ⟨"OverflowError", ["ArithmeticError"], "Result too large to be represented.", makingMembers⟩,
  ⟨"PendingDeprecationWarning", ["Warning"],
    "Base class for warnings about features which will be deprecated\nin the future.",
    makingMembers⟩,
  ⟨"PermissionError", ["OSError"], "Not enough permissions.", initialMembers⟩,
  ⟨"ProcessLookupError", ["OSError"], "Process not found.", initialMembers⟩,
  ⟨"RecursionError", ["RuntimeError"], "Recursion limit exceeded.", makingMembers⟩,
  ⟨"ReferenceError", ["Exception"],
    "Weak ref proxy used after referent went away.", makingMembers⟩,
  ⟨"ResourceWarning", ["Warning"],
    "Base class for warnings about resource usage.", makingMembers⟩,
  ⟨"RuntimeError", ["Exception"], "Unspecified run-time error.", makingMembers⟩,
  ⟨"RuntimeWarning", ["Warning"],
    "Base class for warnings about dubious runtime behavior.", makingMembers⟩,
  ⟨"StopAsyncIteration", ["Exception"],
    "Signal the end from iterator.__anext__().", makingMembers⟩,
  ⟨"StopIteration", ["Exception"],
    "Signal the end from iterator.__next__().", stopIterationMembers⟩,
  ⟨"SyntaxError", ["Exception"], "Invalid syntax.", syntaxErrorMembers⟩,
  ⟨"SyntaxWarning", ["Warning"], "Base class for warnings about dubious syntax.", makingMembers⟩,
  ⟨"SystemError", ["Exception"],
    "Internal error in the Python interpreter.\n\nPlease report this to the Python " ++
    "maintainer, along with the traceback,\nthe Python version, and the hardware/OS platform " ++
    "and version.", makingMembers⟩,
  ⟨"SystemExit", ["BaseException"], "Request to exit from the interpreter.", systemExitMembers⟩,
  ⟨"TabError", ["IndentationError"], "Improper mixture of spaces and tabs.", initialMembers⟩,
  ⟨"TimeoutError", ["OSError"], "Timeout expired.", initialMembers⟩,
  ⟨"TypeError", ["Exception"], "Inappropriate argument type.", makingMembers⟩,
  ⟨"UnboundLocalError", ["NameError"],
    "Local name referenced but not bound to a value.", initialMembers⟩,
  ⟨"UnicodeDecodeError", ["UnicodeError"], "Unicode decoding error.", unicodeDecodeErrorMembers⟩,
  ⟨"UnicodeEncodeError", ["UnicodeError"], "Unicode encoding error.", unicodeEncodeErrorMembers⟩,
  ⟨"UnicodeError", ["ValueError"], "Unicode related error.", makingMembers⟩,
  ⟨"UnicodeTranslateError", ["UnicodeError"],
    "Unicode translation error.", unicodeTranslateErrorMembers⟩,
  ⟨"UnicodeWarning", ["Warning"],
    "Base class for warnings about Unicode related problems, mostly\nrelated to conversion " ++
    "problems.", makingMembers⟩,
  ⟨"UserWarning", ["Warning"], "Base class for warnings generated by user code.", makingMembers⟩,
  ⟨"ValueError", ["Exception"], "Inappropriate argument value (of correct type).", makingMembers⟩,
  ⟨"Warning", ["Exception"], "Base class for warning categories.", makingMembers⟩,
  ⟨"ZeroDivisionError", ["ArithmeticError"],
    "Second argument to a division or modulo operation was zero.", makingMembers⟩]

end RouteDocs.Module.Library
