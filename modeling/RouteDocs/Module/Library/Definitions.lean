import RouteDocs.Module.Library.Kind

namespace RouteDocs.Module.Library

def objectMembers : List Member := [
  ⟨"__new__", .staticMethod,
    "Create and return a new object.  See help(type) for accurate signature."⟩,
  ⟨"__repr__", .method, "Return repr(self)."⟩,
  ⟨"__hash__", .method, "Return hash(self)."⟩,
  ⟨"__str__", .method, "Return str(self)."⟩,
  ⟨"__getattribute__", .method, "Return getattr(self, name)."⟩,
  ⟨"__setattr__", .method, "Implement setattr(self, name, value)."⟩,
  ⟨"__delattr__", .method, "Implement delattr(self, name)."⟩,
  ⟨"__lt__", .method, "Return self<value."⟩,
  ⟨"__le__", .method, "Return self<=value."⟩,
  ⟨"__eq__", .method, "Return self==value."⟩,
  ⟨"__ne__", .method, "Return self!=value."⟩,
  ⟨"__gt__", .method, "Return self>value."⟩,
  ⟨"__ge__", .method, "Return self>=value."⟩,
  ⟨"__init__", .method, "Initialize self.  See help(type(self)) for accurate signature."⟩,
  ⟨"__reduce_ex__", .method, "Helper for pickle."⟩,
  ⟨"__reduce__", .method, "Helper for pickle."⟩,
  ⟨"__getstate__", .method, "Helper for pickle."⟩,
  ⟨"__subclasshook__", .classMethod,
    "Abstract classes can override this to customize issubclass().\n\nThis is invoked early " ++
    "on by abc.ABCMeta.__subclasscheck__().\nIt should return True, False or NotImplemented. " ++
    " If it returns\nNotImplemented, the normal algorithm is used.  Otherwise, it\noverrides " ++
    "the normal algorithm (and the outcome is cached).\n"⟩,
  ⟨"__init_subclass__", .classMethod,
    "This method is called when a class is subclassed.\n\nThe default implementation does " ++
    "nothing. It may be\noverridden to extend subclasses.\n"⟩,
  ⟨"__format__", .method, "Default object formatter."⟩,
  ⟨"__sizeof__", .method, "Size of object in memory, in bytes."⟩,
  ⟨"__dir__", .method, "Default dir() implementation."⟩,
  ⟨"__class__", .field, "the object's class"⟩]

def typeMembers : List Member := [
  ⟨"__new__", .staticMethod,
    "Create and return a new object.  See help(type) for accurate signature."⟩,
  ⟨"__repr__", .method, "Return repr(self)."⟩,
  ⟨"__call__", .method, "Call self as a function."⟩,
  ⟨"__getattribute__", .method, "Return getattr(self, name)."⟩,
  ⟨"__setattr__", .method, "Implement setattr(self, name, value)."⟩,
  ⟨"__delattr__", .method, "Implement delattr(self, name)."⟩,
  ⟨"__init__", .method, "Initialize self.  See help(type(self)) for accurate signature."⟩,
  ⟨"__or__", .method, "Return self|value."⟩,
  ⟨"__ror__", .method, "Return value|self."⟩,
  ⟨"mro", .method, "Return a type's method resolution order."⟩,
  ⟨"__subclasses__", .method, "Return a list of immediate subclasses."⟩,
  ⟨"__prepare__", .classMethod,
    "__prepare__() -> dict\nused to create the namespace for the class statement"⟩,
  ⟨"__instancecheck__", .method, "Check if an object is an instance."⟩,
  ⟨"__subclasscheck__", .method, "Check if a class is a subclass."⟩,
  ⟨"__dir__", .method, "Specialized __dir__ implementation for types."⟩,
  ⟨"__sizeof__", .method, "Return memory consumption of the type object."⟩,
  ⟨"__basicsize__", .field, ""⟩,
  ⟨"__itemsize__", .field, ""⟩,
  ⟨"__flags__", .field, ""⟩,
  ⟨"__weakrefoffset__", .field, ""⟩,
  ⟨"__base__", .field, ""⟩,
  ⟨"__dictoffset__", .field, ""⟩,
  ⟨"__mro__", .field, ""⟩,
  ⟨"__name__", .field, ""⟩,
  ⟨"__qualname__", .field, ""⟩,
  ⟨"__bases__", .field, ""⟩,
  ⟨"__module__", .field, ""⟩,
  ⟨"__abstractmethods__", .field, ""⟩,
  ⟨"__dict__", .field, ""⟩,
  ⟨"__text_signature__", .field, ""⟩,
  ⟨"__annotations__", .field, ""⟩]

def propertyMembers : List Member := [
  ⟨"__new__", .staticMethod,
    "Create and return a new object.  See help(type) for accurate signature."⟩,
  ⟨"__getattribute__", .method, "Return getattr(self, name)."⟩,
  ⟨"__get__", .method, "Return an attribute of instance, which is of type owner."⟩,
  ⟨"__set__", .method, "Set an attribute of instance to value."⟩,
  ⟨"__delete__", .method, "Delete an attribute of instance."⟩,
  ⟨"__init__", .method, "Initialize self.  See help(type(self)) for accurate signature."⟩,
  ⟨"getter", .method, "Descriptor to obtain a copy of the property with a different getter."⟩,
  ⟨"setter", .method, "Descriptor to obtain a copy of the property with a different setter."⟩,
  ⟨"deleter", .method, "Descriptor to obtain a copy of the property with a different deleter."⟩,
  ⟨"__set_name__", .method, "Method to set name of a property."⟩,
  ⟨"fget", .field, ""⟩,
  ⟨"fset", .field, ""⟩,
  ⟨"fdel", .field, ""⟩,
  ⟨"__isabstractmethod__", .field, ""⟩]

def staticmethodMembers : List Member := [
  ⟨"__new__", .staticMethod,
    "Create and return a new object.  See help(type) for accurate signature."⟩,
  ⟨"__repr__", .method, "Return repr(self)."⟩,
  ⟨"__call__", .method, "Call self as a function."⟩,
  ⟨"__get__", .method, "Return an attribute of instance, which is of type owner."⟩,
  ⟨"__init__", .method, "Initialize self.  See help(type(self)) for accurate signature."⟩,
  ⟨"__func__", .field, ""⟩,
  ⟨"__wrapped__", .field, ""⟩,
  ⟨"__isabstractmethod__", .field, ""⟩,
  ⟨"__dict__", .field, ""⟩]

def classmethodMembers : List Member := [
  ⟨"__new__", .staticMethod,
    "Create and return a new object.  See help(type) for accurate signature."⟩,
  ⟨"__repr__", .method, "Return repr(self)."⟩,
  ⟨"__get__", .method, "Return an attribute of instance, which is of type owner."⟩,
  ⟨"__init__", .method, "Initialize self.  See help(type(self)) for accurate signature."⟩,
  ⟨"__func__", .field, ""⟩,
  ⟨"__wrapped__", .field, ""⟩,
  ⟨"__isabstractmethod__", .field, ""⟩,
  ⟨"__dict__", .field, ""⟩]

def superMembers : List Member := [
  ⟨"__new__", .staticMethod,
    "Create and return a new object.  See help(type) for accurate signature."⟩,
  ⟨"__repr__", .method, "Return repr(self)."⟩,
  ⟨"__getattribute__", .method, "Return getattr(self, name)."⟩,
  ⟨"__get__", .method, "Return an attribute of instance, which is of type owner."⟩,
  ⟨"__init__", .method, "Initialize self.  See help(type(self)) for accurate signature."⟩,
  ⟨"__thisclass__", .field, "the class invoking super()"⟩,
  ⟨"__self__", .field, "the instance invoking super(); may be None"⟩,
  ⟨"__self_class__", .field, "the type of the instance invoking super(); may be None"⟩]

def nothingMembers : List Member := [
  ⟨"__new__", .staticMethod,
    "Create and return a new object.  See help(type) for accurate signature."⟩,
  ⟨"__repr__", .method, "Return repr(self)."⟩,
  ⟨"__bool__", .method, "True if self else False"⟩]

def ellipsisMembers : List Member := [
  ⟨"__new__", .staticMethod,
    "Create and return a new object.  See help(type) for accurate signature."⟩,
  ⟨"__repr__", .method, "Return repr(self)."⟩,
  ⟨"__getattribute__", .method, "Return getattr(self, name)."⟩,
  ⟨"__reduce__", .method, ""⟩]

def notImplementedMembers : List Member := [
  ⟨"__new__", .staticMethod,
    "Create and return a new object.  See help(type) for accurate signature."⟩,
  ⟨"__repr__", .method, "Return repr(self)."⟩,
  ⟨"__bool__", .method, "True if self else False"⟩,
  ⟨"__reduce__", .method, ""⟩]

def functionMembers : List Member := [
  ⟨"__new__", .staticMethod,
    "Create and return a new object.  See help(type) for accurate signature."⟩,
  ⟨"__repr__", .method, "Return repr(self)."⟩,
  ⟨"__call__", .method, "Call self as a function."⟩,
  ⟨"__get__", .method, "Return an attribute of instance, which is of type owner."⟩,
  ⟨"__closure__", .field, ""⟩,
  ⟨"__globals__", .field, ""⟩,
  ⟨"__module__", .field, ""⟩,
  ⟨"__builtins__", .field, ""⟩,
  ⟨"__code__", .field, ""⟩,
  ⟨"__defaults__", .field, ""⟩,
  ⟨"__kwdefaults__", .field, ""⟩,
  ⟨"__annotations__", .field, ""⟩,
  ⟨"__dict__", .field, ""⟩,
  ⟨"__name__", .field, ""⟩,
  ⟨"__qualname__", .field, ""⟩]

def builtinFunctionMembers : List Member := [
  ⟨"__repr__", .method, "Return repr(self)."⟩,
  ⟨"__hash__", .method, "Return hash(self)."⟩,
  ⟨"__call__", .method, "Call self as a function."⟩,
  ⟨"__getattribute__", .method, "Return getattr(self, name)."⟩,
  ⟨"__lt__", .method, "Return self<value."⟩,
  ⟨"__le__", .method, "Return self<=value."⟩,
  ⟨"__eq__", .method, "Return self==value."⟩,
  ⟨"__ne__", .method, "Return self!=value."⟩,
  ⟨"__gt__", .method, "Return self>value."⟩,
  ⟨"__ge__", .method, "Return self>=value."⟩,
  ⟨"__reduce__", .method, ""⟩,
  ⟨"__module__", .field, ""⟩,
  ⟨"__name__", .field, ""⟩,
  ⟨"__qualname__", .field, ""⟩,
  ⟨"__self__", .field, ""⟩,
  ⟨"__text_signature__", .field, ""⟩]

def methodMembers : List Member := [
  ⟨"__new__", .staticMethod,
    "Create and return a new object.  See help(type) for accurate signature."⟩,
  ⟨"__repr__", .method, "Return repr(self)."⟩,
  ⟨"__hash__", .method, "Return hash(self)."⟩,
  ⟨"__call__", .method, "Call self as a function."⟩,
  ⟨"__getattribute__", .method, "Return getattr(self, name)."⟩,
  ⟨"__setattr__", .method, "Implement setattr(self, name, value)."⟩,
  ⟨"__delattr__", .method, "Implement delattr(self, name)."⟩,
  ⟨"__lt__", .method, "Return self<value."⟩,
  ⟨"__le__", .method, "Return self<=value."⟩,
  ⟨"__eq__", .method, "Return self==value."⟩,
  ⟨"__ne__", .method, "Return self!=value."⟩,
  ⟨"__gt__", .method, "Return self>value."⟩,
  ⟨"__ge__", .method, "Return self>=value."⟩,
  ⟨"__reduce__", .method, ""⟩,
  ⟨"__func__", .field, "the function (or other callable) implementing a method"⟩,
  ⟨"__self__", .field, "the instance to which a method is bound"⟩]

def moduleMembers : List Member := [
  ⟨"__new__", .staticMethod,
    "Create and return a new object.  See help(type) for accurate signature."⟩,
  ⟨"__repr__", .method, "Return repr(self)."⟩,
  ⟨"__getattribute__", .method, "Return getattr(self, name)."⟩,
  ⟨"__setattr__", .method, "Implement setattr(self, name, value)."⟩,
  ⟨"__delattr__", .method, "Implement delattr(self, name)."⟩,
  ⟨"__init__", .method, "Initialize self.  See help(type(self)) for accurate signature."⟩,
  ⟨"__dir__", .method, "__dir__() -> list\nspecialized dir() implementation"⟩,
  ⟨"__dict__", .field, ""⟩,
  ⟨"__annotations__", .field, ""⟩]

def generatorMembers : List Member := [
  ⟨"__repr__", .method, "Return repr(self)."⟩,
  ⟨"__getattribute__", .method, "Return getattr(self, name)."⟩,
  ⟨"__iter__", .method, "Implement iter(self)."⟩,
  ⟨"__next__", .method, "Implement next(self)."⟩,
  ⟨"__del__", .method, ""⟩,
  ⟨"send", .method,
    "send(arg) -> send 'arg' into generator,\nreturn next yielded value or raise " ++
    "StopIteration."⟩,
  ⟨"throw", .method,
    "throw(value)\nthrow(type[,value[,tb]])\n\nRaise exception in generator, return next " ++
    "yielded value or raise\nStopIteration."⟩,
  ⟨"close", .method, "close() -> raise GeneratorExit inside generator."⟩,
  ⟨"__sizeof__", .method, "gen.__sizeof__() -> size of gen in memory, in bytes"⟩,
  ⟨"gi_code", .field, ""⟩,
  ⟨"__name__", .field, "name of the generator"⟩,
  ⟨"__qualname__", .field, "qualified name of the generator"⟩,
  ⟨"gi_yieldfrom", .field, "object being iterated by yield from, or None"⟩,
  ⟨"gi_running", .field, ""⟩,
  ⟨"gi_frame", .field, ""⟩,
  ⟨"gi_suspended", .field, ""⟩]

def coroutineMembers : List Member := [
  ⟨"__repr__", .method, "Return repr(self)."⟩,
  ⟨"__getattribute__", .method, "Return getattr(self, name)."⟩,
  ⟨"__del__", .method, ""⟩,
  ⟨"__await__", .method, "Return an iterator to be used in await expression."⟩,
  ⟨"send", .method,
    "send(arg) -> send 'arg' into coroutine,\nreturn next iterated value or raise " ++
    "StopIteration."⟩,
  ⟨"throw", .method,
    "throw(value)\nthrow(type[,value[,traceback]])\n\nRaise exception in coroutine, return " ++
    "next iterated value or raise\nStopIteration."⟩,
  ⟨"close", .method, "close() -> raise GeneratorExit inside coroutine."⟩,
  ⟨"__sizeof__", .method, "gen.__sizeof__() -> size of gen in memory, in bytes"⟩,
  ⟨"cr_code", .field, ""⟩,
  ⟨"cr_origin", .field, ""⟩,
  ⟨"__name__", .field, "name of the coroutine"⟩,
  ⟨"__qualname__", .field, "qualified name of the coroutine"⟩,
  ⟨"cr_await", .field, "object being awaited on, or None"⟩,
  ⟨"cr_running", .field, ""⟩,
  ⟨"cr_frame", .field, ""⟩,
  ⟨"cr_suspended", .field, ""⟩]

def asyncGeneratorMembers : List Member := [
  ⟨"__repr__", .method, "Return repr(self)."⟩,
  ⟨"__getattribute__", .method, "Return getattr(self, name)."⟩,
  ⟨"__del__", .method, ""⟩,
  ⟨"__aiter__", .method, "Return an awaitable, that resolves in asynchronous iterator."⟩,
  ⟨"__anext__", .method, "Return a value or raise StopAsyncIteration."⟩,
  ⟨"asend", .method, "asend(v) -> send 'v' in generator."⟩,
  ⟨"athrow", .method, "athrow(typ[,val[,tb]]) -> raise exception in generator."⟩,
  ⟨"aclose", .method, "aclose() -> raise GeneratorExit inside generator."⟩,
  ⟨"__sizeof__", .method, "gen.__sizeof__() -> size of gen in memory, in bytes"⟩,
  ⟨"__class_getitem__", .classMethod, "See PEP 585"⟩,
  ⟨"ag_running", .field, ""⟩,
  ⟨"ag_code", .field, ""⟩,
  ⟨"__name__", .field, "name of the async generator"⟩,
  ⟨"__qualname__", .field, "qualified name of the async generator"⟩,
  ⟨"ag_await", .field, "object being awaited on, or None"⟩,
  ⟨"ag_frame", .field, ""⟩]

def genericAliasMembers : List Member := [
  ⟨"__new__", .staticMethod,
    "Create and return a new object.  See help(type) for accurate signature."⟩,
  ⟨"__repr__", .method, "Return repr(self)."⟩,
  ⟨"__hash__", .method, "Return hash(self)."⟩,
  ⟨"__call__", .method, "Call self as a function."⟩,
  ⟨"__getattribute__", .method, "Return getattr(self, name)."⟩,
  ⟨"__lt__", .method, "Return self<value."⟩,
  ⟨"__le__", .method, "Return self<=value."⟩,
  ⟨"__eq__", .method, "Return self==value."⟩,
  ⟨"__ne__", .method, "Return self!=value."⟩,
  ⟨"__gt__", .method, "Return self>value."⟩,
  ⟨"__ge__", .method, "Return self>=value."⟩,
  ⟨"__iter__", .method, "Implement iter(self)."⟩,
  ⟨"__or__", .method, "Return self|value."⟩,
  ⟨"__ror__", .method, "Return value|self."⟩,
  ⟨"__getitem__", .method, "Return self[key]."⟩,
  ⟨"__mro_entries__", .method, ""⟩,
  ⟨"__instancecheck__", .method, ""⟩,
  ⟨"__subclasscheck__", .method, ""⟩,
  ⟨"__reduce__", .method, ""⟩,
  ⟨"__dir__", .method, ""⟩,
  ⟨"__origin__", .field, ""⟩,
  ⟨"__args__", .field, ""⟩,
  ⟨"__unpacked__", .field, ""⟩,
  ⟨"__parameters__", .field, "Type variables in the GenericAlias."⟩,
  ⟨"__typing_unpacked_tuple_args__", .field, ""⟩]

def unionTypeMembers : List Member := [
  ⟨"__repr__", .method, "Return repr(self)."⟩,
  ⟨"__hash__", .method, "Return hash(self)."⟩,
  ⟨"__getattribute__", .method, "Return getattr(self, name)."⟩,
  ⟨"__lt__", .method, "Return self<value."⟩,
  ⟨"__le__", .method, "Return self<=value."⟩,
  ⟨"__eq__", .method, "Return self==value."⟩,
  ⟨"__ne__", .method, "Return self!=value."⟩,
  ⟨"__gt__", .method, "Return self>value."⟩,
  ⟨"__ge__", .method, "Return self>=value."⟩,
  ⟨"__or__", .method, "Return self|value."⟩,
  ⟨"__ror__", .method, "Return value|self."⟩,
  ⟨"__getitem__", .method, "Return self[key]."⟩,
  ⟨"__args__", .field, ""⟩,
  ⟨"__parameters__", .field, "Type variables in the types.UnionType."⟩]

def mappingproxyMembers : List Member := [
  ⟨"__new__", .staticMethod,
    "Create and return a new object.  See help(type) for accurate signature."⟩,
  ⟨"__repr__", .method, "Return repr(self)."⟩,
  ⟨"__str__", .method, "Return str(self)."⟩,
  ⟨"__getattribute__", .method, "Return getattr(self, name)."⟩,
  ⟨"__lt__", .method, "Return self<value."⟩,
  ⟨"__le__", .method, "Return self<=value."⟩,
  ⟨"__eq__", .method, "Return self==value."⟩,
  ⟨"__ne__", .method, "Return self!=value."⟩,
  ⟨"__gt__", .method, "Return self>value."⟩,
  ⟨"__ge__", .method, "Return self>=value."⟩,
  ⟨"__iter__", .method, "Implement iter(self)."⟩,
  ⟨"__or__", .method, "Return self|value."⟩,
  ⟨"__ror__", .method, "Return value|self."⟩,
  ⟨"__ior__", .method, "Return self|=value."⟩,
  ⟨"__len__", .method, "Return len(self)."⟩,
  ⟨"__getitem__", .method, "Return self[key]."⟩,
  ⟨"__contains__", .method, "Return key in self."⟩,
  ⟨"get", .method, "D.get(k[,d]) -> D[k] if k in D, else d.  d defaults to None."⟩,
  ⟨"keys", .method, "D.keys() -> a set-like object providing a view on D's keys"⟩,
  ⟨"values", .method, "D.values() -> an object providing a view on D's values"⟩,
  ⟨"items", .method, "D.items() -> a set-like object providing a view on D's items"⟩,
  ⟨"copy", .method, "D.copy() -> a shallow copy of D"⟩,
  ⟨"__class_getitem__", .classMethod, "See PEP 585"⟩,
  ⟨"__reversed__", .method, "D.__reversed__() -> reverse iterator"⟩,
  ⟨"__hash__", .value, ""⟩]

def wrapperDescriptorMembers : List Member := [
  ⟨"__repr__", .method, "Return repr(self)."⟩,
  ⟨"__call__", .method, "Call self as a function."⟩,
  ⟨"__getattribute__", .method, "Return getattr(self, name)."⟩,
  ⟨"__get__", .method, "Return an attribute of instance, which is of type owner."⟩,
  ⟨"__reduce__", .method, ""⟩,
  ⟨"__objclass__", .field, ""⟩,
  ⟨"__name__", .field, ""⟩,
  ⟨"__qualname__", .field, ""⟩,
  ⟨"__text_signature__", .field, ""⟩]

def methodWrapperMembers : List Member := [
  ⟨"__repr__", .method, "Return repr(self)."⟩,
  ⟨"__hash__", .method, "Return hash(self)."⟩,
  ⟨"__call__", .method, "Call self as a function."⟩,
  ⟨"__getattribute__", .method, "Return getattr(self, name)."⟩,
  ⟨"__lt__", .method, "Return self<value."⟩,
  ⟨"__le__", .method, "Return self<=value."⟩,
  ⟨"__eq__", .method, "Return self==value."⟩,
  ⟨"__ne__", .method, "Return self!=value."⟩,
  ⟨"__gt__", .method, "Return self>value."⟩,
  ⟨"__ge__", .method, "Return self>=value."⟩,
  ⟨"__reduce__", .method, ""⟩,
  ⟨"__self__", .field, ""⟩,
  ⟨"__objclass__", .field, ""⟩,
  ⟨"__name__", .field, ""⟩,
  ⟨"__qualname__", .field, ""⟩,
  ⟨"__text_signature__", .field, ""⟩]

def methodDescriptorMembers : List Member := [
  ⟨"__repr__", .method, "Return repr(self)."⟩,
  ⟨"__call__", .method, "Call self as a function."⟩,
  ⟨"__getattribute__", .method, "Return getattr(self, name)."⟩,
  ⟨"__get__", .method, "Return an attribute of instance, which is of type owner."⟩,
  ⟨"__reduce__", .method, ""⟩,
  ⟨"__objclass__", .field, ""⟩,
  ⟨"__name__", .field, ""⟩,
  ⟨"__qualname__", .field, ""⟩,
  ⟨"__text_signature__", .field, ""⟩]

def getsetDescriptorMembers : List Member := [
  ⟨"__repr__", .method, "Return repr(self)."⟩,
  ⟨"__getattribute__", .method, "Return getattr(self, name)."⟩,
  ⟨"__get__", .method, "Return an attribute of instance, which is of type owner."⟩,
  ⟨"__set__", .method, "Set an attribute of instance to value."⟩,
  ⟨"__delete__", .method, "Delete an attribute of instance."⟩,
  ⟨"__objclass__", .field, ""⟩,
  ⟨"__name__", .field, ""⟩,
  ⟨"__qualname__", .field, ""⟩]

def memberDescriptorMembers : List Member := [
  ⟨"__repr__", .method, "Return repr(self)."⟩,
  ⟨"__getattribute__", .method, "Return getattr(self, name)."⟩,
  ⟨"__get__", .method, "Return an attribute of instance, which is of type owner."⟩,
  ⟨"__set__", .method, "Set an attribute of instance to value."⟩,
  ⟨"__delete__", .method, "Delete an attribute of instance."⟩,
  ⟨"__reduce__", .method, ""⟩,
  ⟨"__objclass__", .field, ""⟩,
  ⟨"__name__", .field, ""⟩,
  ⟨"__qualname__", .field, ""⟩]

/-- The classes of classes, functions, modules and what belongs to them. -/
def definitionClasses : List ClassInfo := [
  ⟨"object", [],
    "The base class of the class hierarchy.\n\nWhen called, it accepts no arguments and " ++
    "returns a new featureless\ninstance that has no instance attributes and cannot be given " ++
    "any.\n", objectMembers⟩,
  ⟨"type", ["object"],
    "type(object) -> the object's type\ntype(name, bases, dict, **kwds) -> a new type",
    typeMembers⟩,
  ⟨"property", ["object"],
    "Property attribute.\n\n  fget\n    function to be used for getting an attribute value\n " ++
    " fset\n    function to be used for setting an attribute value\n  fdel\n    function to " ++
    "be used for del'ing an attribute\n  doc\n    docstring\n\nTypical use is to define a " ++
    "managed attribute x:\n\nclass C(object):\n    def getx(self): return self._x\n    def " ++
    "setx(self, value): self._x = value\n    def delx(self): del self._x\n    x = " ++
    "property(getx, setx, delx, \"I'm the 'x' property.\")\n\nDecorators make defining new " ++
    "properties or modifying existing ones easy:\n\nclass C(object):\n    @property\n    def " ++
    "x(self):\n        \"I am the 'x' property.\"\n        return self._x\n    @x.setter\n   " ++
    " def x(self, value):\n        self._x = value\n    @x.deleter\n    def x(self):\n       " ++
    " del self._x", propertyMembers⟩,
  ⟨"staticmethod", ["object"],
    "staticmethod(function) -> method\n\nConvert a function to be a static method.\n\nA " ++
    "static method does not receive an implicit first argument.\nTo declare a static method, " ++
    "use this idiom:\n\n     class C:\n         @staticmethod\n         def f(arg1, arg2, " ++
    "argN):\n             ...\n\nIt can be called either on the class (e.g. C.f()) or on an " ++
    "instance\n(e.g. C().f()). Both the class and the instance are ignored, and\nneither is " ++
    "passed implicitly as the first argument to the method.\n\nStatic methods in Python are " ++
    "similar to those found in Java or C++.\nFor a more advanced concept, see the " ++
    "classmethod builtin.", staticmethodMembers⟩,
  ⟨"classmethod", ["object"],
    "classmethod(function) -> method\n\nConvert a function to be a class method.\n\nA class " ++
    "method receives the class as implicit first argument,\njust like an instance method " ++
    "receives the instance.\nTo declare a class method, use this idiom:\n\n  class C:\n      " ++
    "@classmethod\n      def f(cls, arg1, arg2, argN):\n          ...\n\nIt can be called " ++
    "either on the class (e.g. C.f()) or on an instance\n(e.g. C().f()).  The instance is " ++
    "ignored except for its class.\nIf a class method is called for a derived class, the " ++
    "derived class\nobject is passed as the implied first argument.\n\nClass methods are " ++
    "different than C++ or Java static methods.\nIf you want those, see the staticmethod " ++
    "builtin.", classmethodMembers⟩,
  ⟨"super", ["object"],
    "super() -> same as super(__class__, <first argument>)\nsuper(type) -> unbound super " ++
    "object\nsuper(type, obj) -> bound super object; requires isinstance(obj, " ++
    "type)\nsuper(type, type2) -> bound super object; requires issubclass(type2, " ++
    "type)\nTypical use to call a cooperative superclass method:\nclass C(B):\n    def " ++
    "meth(self, arg):\n        super().meth(arg)\nThis works for class methods too:\nclass " ++
    "C(B):\n    @classmethod\n    def cmeth(cls, arg):\n        super().cmeth(arg)\n",
    superMembers⟩,
  ⟨"NoneType", ["object"], "", nothingMembers⟩,
  ⟨"ellipsis", ["object"], "", ellipsisMembers⟩,
  ⟨"NotImplementedType", ["object"], "", notImplementedMembers⟩,
  ⟨"function", ["object"],
    "Create a function object.\n\n  code\n    a code object\n  globals\n    the globals " ++
    "dictionary\n  name\n    a string that overrides the name from the code object\n  " ++
    "argdefs\n    a tuple that specifies the default argument values\n  closure\n    a tuple " ++
    "that supplies the bindings for free variables", functionMembers⟩,
  ⟨"builtin_function_or_method", ["object"], "", builtinFunctionMembers⟩,
  ⟨"method", ["object"], "Create a bound instance method object.", methodMembers⟩,
  ⟨"module", ["object"],
    "Create a module object.\n\nThe name must be a string; the optional doc argument can " ++
    "have any type.", moduleMembers⟩,
  ⟨"generator", ["object"], "", generatorMembers⟩,
  ⟨"coroutine", ["object"], "", coroutineMembers⟩,
  ⟨"async_generator", ["object"], "", asyncGeneratorMembers⟩,
  ⟨"types.GenericAlias", ["object"],
    "Represent a PEP 585 generic type\n\nE.g. for t = list[int], t.__origin__ is list and " ++
    "t.__args__ is (int,).", genericAliasMembers⟩,
  ⟨"types.UnionType", ["object"],
    "Represent a PEP 604 union type\n\nE.g. for int | str", unionTypeMembers⟩,
  ⟨"mappingproxy", ["object"], "", mappingproxyMembers⟩,
  ⟨"wrapper_descriptor", ["object"], "", wrapperDescriptorMembers⟩,
  ⟨"method-wrapper", ["object"], "", methodWrapperMembers⟩,
  ⟨"method_descriptor", ["object"], "", methodDescriptorMembers⟩,
  ⟨"getset_descriptor", ["object"], "", getsetDescriptorMembers⟩,
  ⟨"member_descriptor", ["object"], "", memberDescriptorMembers⟩]

end RouteDocs.Module.Library
