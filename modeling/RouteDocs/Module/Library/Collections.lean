import RouteDocs.Module.Library.Kind

namespace RouteDocs.Module.Library

def mappingMembers : List Member := [
  ⟨"__new__", .staticMethod,
    "Create and return a new object.  See help(type) for accurate signature."⟩,
  ⟨"__repr__", .method, "Return repr(self)."⟩,
  ⟨"__hash__", .value, ""⟩,
  ⟨"__getattribute__", .method, "Return getattr(self, name)."⟩,
  ⟨"__lt__", .method, "Return self<value."⟩,
  ⟨"__le__", .method, "Return self<=value."⟩,
  ⟨"__eq__", .method, "Return self==value."⟩,
  ⟨"__ne__", .method, "Return self!=value."⟩,
  ⟨"__gt__", .method, "Return self>value."⟩,
  ⟨"__ge__", .method, "Return self>=value."⟩,
  ⟨"__iter__", .method, "Implement iter(self)."⟩,
  ⟨"__init__", .method, "Initialize self.  See help(type(self)) for accurate signature."⟩,
  ⟨"__or__", .method, "Return self|value."⟩,
  ⟨"__ror__", .method, "Return value|self."⟩,
  ⟨"__ior__", .method, "Return self|=value."⟩,
  ⟨"__len__", .method, "Return len(self)."⟩,
  ⟨"__getitem__", .method, "x.__getitem__(y) <==> x[y]"⟩,
  ⟨"__setitem__", .method, "Set self[key] to value."⟩,
  ⟨"__delitem__", .method, "Delete self[key]."⟩,
  ⟨"__contains__", .method, "True if the dictionary has the specified key, else False."⟩,
  ⟨"__sizeof__", .method, "D.__sizeof__() -> size of D in memory, in bytes"⟩,
  ⟨"get", .method, "Return the value for key if key is in the dictionary, else default."⟩,
  ⟨"setdefault", .method,
    "Insert key with a value of default if key is not in the dictionary.\n\nReturn the value " ++
    "for key if key is in the dictionary, else default."⟩,
  ⟨"pop", .method,
    "D.pop(k[,d]) -> v, remove specified key and return the corresponding value.\n\nIf the " ++
    "key is not found, return the default if given; otherwise,\nraise a KeyError."⟩,
  ⟨"popitem", .method,
    "Remove and return a (key, value) pair as a 2-tuple.\n\nPairs are returned in LIFO " ++
    "(last-in, first-out) order.\nRaises KeyError if the dict is empty."⟩,
  ⟨"keys", .method, "D.keys() -> a set-like object providing a view on D's keys"⟩,
  ⟨"items", .method, "D.items() -> a set-like object providing a view on D's items"⟩,
  ⟨"values", .method, "D.values() -> an object providing a view on D's values"⟩,
  ⟨"update", .method,
    "D.update([E, ]**F) -> None.  Update D from dict/iterable E and F.\nIf E is present and " ++
    "has a .keys() method, then does:  for k in E: D[k] = E[k]\nIf E is present and lacks a " ++
    ".keys() method, then does:  for k, v in E: D[k] = v\nIn either case, this is followed " ++
    "by: for k in F:  D[k] = F[k]"⟩,
  ⟨"fromkeys", .classMethod,
    "Create a new dictionary with keys from iterable and values set to value."⟩,
  ⟨"clear", .method, "D.clear() -> None.  Remove all items from D."⟩,
  ⟨"copy", .method, "D.copy() -> a shallow copy of D"⟩,
  ⟨"__reversed__", .method, "Return a reverse iterator over the dict keys."⟩,
  ⟨"__class_getitem__", .classMethod, "See PEP 585"⟩]

def enumerateMembers : List Member := [
  ⟨"__new__", .staticMethod,
    "Create and return a new object.  See help(type) for accurate signature."⟩,
  ⟨"__getattribute__", .method, "Return getattr(self, name)."⟩,
  ⟨"__iter__", .method, "Implement iter(self)."⟩,
  ⟨"__next__", .method, "Implement next(self)."⟩,
  ⟨"__reduce__", .method, "Return state information for pickling."⟩,
  ⟨"__class_getitem__", .classMethod, "See PEP 585"⟩]

def filterMembers : List Member := [
  ⟨"__new__", .staticMethod,
    "Create and return a new object.  See help(type) for accurate signature."⟩,
  ⟨"__getattribute__", .method, "Return getattr(self, name)."⟩,
  ⟨"__iter__", .method, "Implement iter(self)."⟩,
  ⟨"__next__", .method, "Implement next(self)."⟩,
  ⟨"__reduce__", .method, "Return state information for pickling."⟩]

def frozensetMembers : List Member := [
  ⟨"__new__", .staticMethod,
    "Create and return a new object.  See help(type) for accurate signature."⟩,
  ⟨"__repr__", .method, "Return repr(self)."⟩,
  ⟨"__hash__", .method, "Return hash(self)."⟩,
  ⟨"__getattribute__", .method, "Return getattr(self, name)."⟩,
  ⟨"__lt__", .method, "Return self<value."⟩,
  ⟨"__le__", .method, "Return self<=value."⟩,
  ⟨"__eq__", .method, "Return self==value."⟩,
  ⟨"__ne__", .method, "Return self!=value."⟩,
  ⟨"__gt__", .method, "Return self>value."⟩,
  ⟨"__ge__", .method, "Return self>=value."⟩,
  ⟨"__iter__", .method, "Implement iter(self)."⟩,
  ⟨"__sub__", .method, "Return self-value."⟩,
  ⟨"__rsub__", .method, "Return value-self."⟩,
  ⟨"__and__", .method, "Return self&value."⟩,
  ⟨"__rand__", .method, "Return value&self."⟩,
  ⟨"__xor__", .method, "Return self^value."⟩,
  ⟨"__rxor__", .method, "Return value^self."⟩,
  ⟨"__or__", .method, "Return self|value."⟩,
  ⟨"__ror__", .method, "Return value|self."⟩,
  ⟨"__len__", .method, "Return len(self)."⟩,
  ⟨"__contains__", .method, "x.__contains__(y) <==> y in x."⟩,
  ⟨"copy", .method, "Return a shallow copy of a set."⟩,
  ⟨"difference", .method,
    "Return the difference of two or more sets as a new set.\n\n(i.e. all elements that are " ++
    "in this set but not the others.)"⟩,
  ⟨"intersection", .method,
    "Return the intersection of two sets as a new set.\n\n(i.e. all elements that are in " ++
    "both sets.)"⟩,
  ⟨"isdisjoint", .method, "Return True if two sets have a null intersection."⟩,
  ⟨"issubset", .method, "Test whether every element in the set is in other."⟩,
  ⟨"issuperset", .method, "Test whether every element in other is in the set."⟩,
  ⟨"__reduce__", .method, "Return state information for pickling."⟩,
  ⟨"__sizeof__", .method, "S.__sizeof__() -> size of S in memory, in bytes"⟩,
  ⟨"symmetric_difference", .method,
    "Return the symmetric difference of two sets as a new set.\n\n(i.e. all elements that " ++
    "are in exactly one of the sets.)"⟩,
  ⟨"union", .method,
    "Return the union of sets as a new set.\n\n(i.e. all elements that are in either set.)"⟩,
  ⟨"__class_getitem__", .classMethod, "See PEP 585"⟩]

def listMembers : List Member := [
  ⟨"__new__", .staticMethod,
    "Create and return a new object.  See help(type) for accurate signature."⟩,
  ⟨"__repr__", .method, "Return repr(self)."⟩,
  ⟨"__hash__", .value, ""⟩,
  ⟨"__getattribute__", .method, "Return getattr(self, name)."⟩,
  ⟨"__lt__", .method, "Return self<value."⟩,
  ⟨"__le__", .method, "Return self<=value."⟩,
  ⟨"__eq__", .method, "Return self==value."⟩,
  ⟨"__ne__", .method, "Return self!=value."⟩,
  ⟨"__gt__", .method, "Return self>value."⟩,
  ⟨"__ge__", .method, "Return self>=value."⟩,
  ⟨"__iter__", .method, "Implement iter(self)."⟩,
  ⟨"__init__", .method, "Initialize self.  See help(type(self)) for accurate signature."⟩,
  ⟨"__len__", .method, "Return len(self)."⟩,
  ⟨"__getitem__", .method, "x.__getitem__(y) <==> x[y]"⟩,
  ⟨"__setitem__", .method, "Set self[key] to value."⟩,
  ⟨"__delitem__", .method, "Delete self[key]."⟩,
  ⟨"__add__", .method, "Return self+value."⟩,
  ⟨"__mul__", .method, "Return self*value."⟩,
  ⟨"__rmul__", .method, "Return value*self."⟩,
  ⟨"__contains__", .method, "Return key in self."⟩,
  ⟨"__iadd__", .method, "Implement self+=value."⟩,
  ⟨"__imul__", .method, "Implement self*=value."⟩,
  ⟨"__reversed__", .method, "Return a reverse iterator over the list."⟩,
  ⟨"__sizeof__", .method, "Return the size of the list in memory, in bytes."⟩,
  ⟨"clear", .method, "Remove all items from list."⟩,
  ⟨"copy", .method, "Return a shallow copy of the list."⟩,
  ⟨"append", .method, "Append object to the end of the list."⟩,
  ⟨"insert", .method, "Insert object before index."⟩,
  ⟨"extend", .method, "Extend list by appending elements from the iterable."⟩,
  ⟨"pop", .method,
    "Remove and return item at index (default last).\n\nRaises IndexError if list is empty " ++
    "or index is out of range."⟩,
  ⟨"remove", .method,
    "Remove first occurrence of value.\n\nRaises ValueError if the value is not present."⟩,
  ⟨"index", .method,
    "Return first index of value.\n\nRaises ValueError if the value is not present."⟩,
  ⟨"count", .method, "Return number of occurrences of value."⟩,
  ⟨"reverse", .method, "Reverse *IN PLACE*."⟩,
  ⟨"sort", .method,
    "Sort the list in ascending order and return None.\n\nThe sort is in-place (i.e. the " ++
    "list itself is modified) and stable (i.e. the\norder of two equal elements is " ++
    "maintained).\n\nIf a key function is given, apply it once to each list item and sort " ++
    "them,\nascending or descending, according to their function values.\n\nThe reverse flag " ++
    "can be set to sort in descending order."⟩,
  ⟨"__class_getitem__", .classMethod, "See PEP 585"⟩]

def mapMembers : List Member := [
  ⟨"__new__", .staticMethod,
    "Create and return a new object.  See help(type) for accurate signature."⟩,
  ⟨"__getattribute__", .method, "Return getattr(self, name)."⟩,
  ⟨"__iter__", .method, "Implement iter(self)."⟩,
  ⟨"__next__", .method, "Implement next(self)."⟩,
  ⟨"__reduce__", .method, "Return state information for pickling."⟩]

def rangeMembers : List Member := [
  ⟨"__new__", .staticMethod,
    "Create and return a new object.  See help(type) for accurate signature."⟩,
  ⟨"__repr__", .method, "Return repr(self)."⟩,
  ⟨"__hash__", .method, "Return hash(self)."⟩,
  ⟨"__getattribute__", .method, "Return getattr(self, name)."⟩,
  ⟨"__lt__", .method, "Return self<value."⟩,
  ⟨"__le__", .method, "Return self<=value."⟩,
  ⟨"__eq__", .method, "Return self==value."⟩,
  ⟨"__ne__", .method, "Return self!=value."⟩,
  ⟨"__gt__", .method, "Return self>value."⟩,
  ⟨"__ge__", .method, "Return self>=value."⟩,
  ⟨"__iter__", .method, "Implement iter(self)."⟩,
  ⟨"__bool__", .method, "True if self else False"⟩,
  ⟨"__len__", .method, "Return len(self)."⟩,
  ⟨"__getitem__", .method, "Return self[key]."⟩,
  ⟨"__contains__", .method, "Return key in self."⟩,
  ⟨"__reversed__", .method, "Return a reverse iterator."⟩,
  ⟨"__reduce__", .method, ""⟩,
  ⟨"count", .method,
    "rangeobject.count(value) -> integer -- return number of occurrences of value"⟩,
  ⟨"index", .method,
    "rangeobject.index(value) -> integer -- return index of value.\nRaise ValueError if the " ++
    "value is not present."⟩,
  ⟨"start", .field, ""⟩,
  ⟨"stop", .field, ""⟩,
  ⟨"step", .field, ""⟩]

def reversedMembers : List Member := [
  ⟨"__new__", .staticMethod,
    "Create and return a new object.  See help(type) for accurate signature."⟩,
  ⟨"__getattribute__", .method, "Return getattr(self, name)."⟩,
  ⟨"__iter__", .method, "Implement iter(self)."⟩,
  ⟨"__next__", .method, "Implement next(self)."⟩,
  ⟨"__length_hint__", .method, "Private method returning an estimate of len(list(it))."⟩,
  ⟨"__reduce__", .method, "Return state information for pickling."⟩,
  ⟨"__setstate__", .method, "Set state information for unpickling."⟩]

def setMembers : List Member := [
  ⟨"__new__", .staticMethod,
    "Create and return a new object.  See help(type) for accurate signature."⟩,
  ⟨"__repr__", .method, "Return repr(self)."⟩,
  ⟨"__hash__", .value, ""⟩,
  ⟨"__getattribute__", .method, "Return getattr(self, name)."⟩,
  ⟨"__lt__", .method, "Return self<value."⟩,
  ⟨"__le__", .method, "Return self<=value."⟩,
  ⟨"__eq__", .method, "Return self==value."⟩,
  ⟨"__ne__", .method, "Return self!=value."⟩,
  ⟨"__gt__", .method, "Return self>value."⟩,
  ⟨"__ge__", .method, "Return self>=value."⟩,
  ⟨"__iter__", .method, "Implement iter(self)."⟩,
  ⟨"__init__", .method, "Initialize self.  See help(type(self)) for accurate signature."⟩,
  ⟨"__sub__", .method, "Return self-value."⟩,
  ⟨"__rsub__", .method, "Return value-self."⟩,
  ⟨"__and__", .method, "Return self&value."⟩,
  ⟨"__rand__", .method, "Return value&self."⟩,
  ⟨"__xor__", .method, "Return self^value."⟩,
  ⟨"__rxor__", .method, "Return value^self."⟩,
  ⟨"__or__", .method, "Return self|value."⟩,
  ⟨"__ror__", .method, "Return value|self."⟩,
  ⟨"__isub__", .method, "Return self-=value."⟩,
  ⟨"__iand__", .method, "Return self&=value."⟩,
  ⟨"__ixor__", .method, "Return self^=value."⟩,
  ⟨"__ior__", .method, "Return self|=value."⟩,
  ⟨"__len__", .method, "Return len(self)."⟩,
  ⟨"__contains__", .method, "x.__contains__(y) <==> y in x."⟩,
  ⟨"add", .method,
    "Add an element to a set.\n\nThis has no effect if the element is already present."⟩,
  ⟨"clear", .method, "Remove all elements from this set."⟩,
  ⟨"copy", .method, "Return a shallow copy of a set."⟩,
  ⟨"discard", .method,
    "Remove an element from a set if it is a member.\n\nUnlike set.remove(), the discard() " ++
    "method does not raise\nan exception when an element is missing from the set."⟩,
  ⟨"difference", .method,
    "Return the difference of two or more sets as a new set.\n\n(i.e. all elements that are " ++
    "in this set but not the others.)"⟩,
  ⟨"difference_update", .method, "Remove all elements of another set from this set."⟩,
  ⟨"intersection", .method,
    "Return the intersection of two sets as a new set.\n\n(i.e. all elements that are in " ++
    "both sets.)"⟩,
  ⟨"intersection_update", .method, "Update a set with the intersection of itself and another."⟩,
  ⟨"isdisjoint", .method, "Return True if two sets have a null intersection."⟩,
  ⟨"issubset", .method, "Test whether every element in the set is in other."⟩,
  ⟨"issuperset", .method, "Test whether every element in other is in the set."⟩,
  ⟨"pop", .method,
    "Remove and return an arbitrary set element.\nRaises KeyError if the set is empty."⟩,
  ⟨"__reduce__", .method, "Return state information for pickling."⟩,
  ⟨"remove", .method,
    "Remove an element from a set; it must be a member.\n\nIf the element is not a member, " ++
    "raise a KeyError."⟩,
  ⟨"__sizeof__", .method, "S.__sizeof__() -> size of S in memory, in bytes"⟩,
  ⟨"symmetric_difference", .method,
    "Return the symmetric difference of two sets as a new set.\n\n(i.e. all elements that " ++
    "are in exactly one of the sets.)"⟩,
  ⟨"symmetric_difference_update", .method,
    "Update a set with the symmetric difference of itself and another."⟩,
  ⟨"union", .method,
    "Return the union of sets as a new set.\n\n(i.e. all elements that are in either set.)"⟩,
  ⟨"update", .method, "Update a set with the union of itself and others."⟩,
  ⟨"__class_getitem__", .classMethod, "See PEP 585"⟩]

def sliceMembers : List Member := [
  ⟨"__new__", .staticMethod,
    "Create and return a new object.  See help(type) for accurate signature."⟩,
  ⟨"__repr__", .method, "Return repr(self)."⟩,
  ⟨"__hash__", .value, ""⟩,
  ⟨"__getattribute__", .method, "Return getattr(self, name)."⟩,
  ⟨"__lt__", .method, "Return self<value."⟩,
  ⟨"__le__", .method, "Return self<=value."⟩,
  ⟨"__eq__", .method, "Return self==value."⟩,
  ⟨"__ne__", .method, "Return self!=value."⟩,
  ⟨"__gt__", .method, "Return self>value."⟩,
  ⟨"__ge__", .method, "Return self>=value."⟩,
  ⟨"indices", .method,
    "S.indices(len) -> (start, stop, stride)\n\nAssuming a sequence of length len, calculate " ++
    "the start and stop\nindices, and the stride length of the extended slice described " ++
    "by\nS. Out of bounds indices are clipped in a manner consistent with the\nhandling of " ++
    "normal slices."⟩,
  ⟨"__reduce__", .method, "Return state information for pickling."⟩,
  ⟨"start", .field, ""⟩,
  ⟨"stop", .field, ""⟩,
  ⟨"step", .field, ""⟩]

def tupleMembers : List Member := [
  ⟨"__new__", .staticMethod,
    "Create and return a new object.  See help(type) for accurate signature."⟩,
  ⟨"__repr__", .method, "Return repr(self)."⟩,
  ⟨"__hash__", .method, "Return hash(self)."⟩,
  ⟨"__getattribute__", .method, "Return getattr(self, name)."⟩,
  ⟨"__lt__", .method, "Return self<value."⟩,
  ⟨"__le__", .method, "Return self<=value."⟩,
  ⟨"__eq__", .method, "Return self==value."⟩,
  ⟨"__ne__", .method, "Return self!=value."⟩,
  ⟨"__gt__", .method, "Return self>value."⟩,
  ⟨"__ge__", .method, "Return self>=value."⟩,
  ⟨"__iter__", .method, "Implement iter(self)."⟩,
  ⟨"__len__", .method, "Return len(self)."⟩,
  ⟨"__getitem__", .method, "Return self[key]."⟩,
  ⟨"__add__", .method, "Return self+value."⟩,
  ⟨"__mul__", .method, "Return self*value."⟩,
  ⟨"__rmul__", .method, "Return value*self."⟩,
  ⟨"__contains__", .method, "Return key in self."⟩,
  ⟨"__getnewargs__", .method, ""⟩,
  ⟨"index", .method,
    "Return first index of value.\n\nRaises ValueError if the value is not present."⟩,
  ⟨"count", .method, "Return number of occurrences of value."⟩,
  ⟨"__class_getitem__", .classMethod, "See PEP 585"⟩]

def zipMembers : List Member := [
  ⟨"__new__", .staticMethod,
    "Create and return a new object.  See help(type) for accurate signature."⟩,
  ⟨"__getattribute__", .method, "Return getattr(self, name)."⟩,
  ⟨"__iter__", .method, "Implement iter(self)."⟩,
  ⟨"__next__", .method, "Implement next(self)."⟩,
  ⟨"__reduce__", .method, "Return state information for pickling."⟩,
  ⟨"__setstate__", .method, "Set state information for unpickling."⟩]

def mappingKeysMembers : List Member := [
  ⟨"__repr__", .method, "Return repr(self)."⟩,
  ⟨"__getattribute__", .method, "Return getattr(self, name)."⟩,
  ⟨"__lt__", .method, "Return self<value."⟩,
  ⟨"__le__", .method, "Return self<=value."⟩,
  ⟨"__eq__", .method, "Return self==value."⟩,
  ⟨"__ne__", .method, "Return self!=value."⟩,
  ⟨"__gt__", .method, "Return self>value."⟩,
  ⟨"__ge__", .method, "Return self>=value."⟩,
  ⟨"__iter__", .method, "Implement iter(self)."⟩,
  ⟨"__sub__", .method, "Return self-value."⟩,
  ⟨"__rsub__", .method, "Return value-self."⟩,
  ⟨"__and__", .method, "Return self&value."⟩,
  ⟨"__rand__", .method, "Return value&self."⟩,
  ⟨"__xor__", .method, "Return self^value."⟩,
  ⟨"__rxor__", .method, "Return value^self."⟩,
  ⟨"__or__", .method, "Return self|value."⟩,
  ⟨"__ror__", .method, "Return value|self."⟩,
  ⟨"__len__", .method, "Return len(self)."⟩,
  ⟨"__contains__", .method, "Return key in self."⟩,
  ⟨"isdisjoint", .method,
    "Return True if the view and the given iterable have a null intersection."⟩,
  ⟨"__reversed__", .method, "Return a reverse iterator over the dict keys."⟩,
  ⟨"mapping", .field, "dictionary that this view refers to"⟩,
  ⟨"__hash__", .value, ""⟩]

def mappingValuesMembers : List Member := [
  ⟨"__repr__", .method, "Return repr(self)."⟩,
  ⟨"__getattribute__", .method, "Return getattr(self, name)."⟩,
  ⟨"__iter__", .method, "Implement iter(self)."⟩,
  ⟨"__len__", .method, "Return len(self)."⟩,
  ⟨"__reversed__", .method, "Return a reverse iterator over the dict values."⟩,
  ⟨"mapping", .field, "dictionary that this view refers to"⟩]

def mappingItemsMembers : List Member := [
  ⟨"__repr__", .method, "Return repr(self)."⟩,
  ⟨"__getattribute__", .method, "Return getattr(self, name)."⟩,
  ⟨"__lt__", .method, "Return self<value."⟩,
  ⟨"__le__", .method, "Return self<=value."⟩,
  ⟨"__eq__", .method, "Return self==value."⟩,
  ⟨"__ne__", .method, "Return self!=value."⟩,
  ⟨"__gt__", .method, "Return self>value."⟩,
  ⟨"__ge__", .method, "Return self>=value."⟩,
  ⟨"__iter__", .method, "Implement iter(self)."⟩,
  ⟨"__sub__", .method, "Return self-value."⟩,
  ⟨"__rsub__", .method, "Return value-self."⟩,
  ⟨"__and__", .method, "Return self&value."⟩,
  ⟨"__rand__", .method, "Return value&self."⟩,
  ⟨"__xor__", .method, "Return self^value."⟩,
  ⟨"__rxor__", .method, "Return value^self."⟩,
  ⟨"__or__", .method, "Return self|value."⟩,
  ⟨"__ror__", .method, "Return value|self."⟩,
  ⟨"__len__", .method, "Return len(self)."⟩,
  ⟨"__contains__", .method, "Return key in self."⟩,
  ⟨"isdisjoint", .method,
    "Return True if the view and the given iterable have a null intersection."⟩,
  ⟨"__reversed__", .method, "Return a reverse iterator over the dict items."⟩,
  ⟨"mapping", .field, "dictionary that this view refers to"⟩,
  ⟨"__hash__", .value, ""⟩]

def listIteratorMembers : List Member := [
  ⟨"__getattribute__", .method, "Return getattr(self, name)."⟩,
  ⟨"__iter__", .method, "Implement iter(self)."⟩,
  ⟨"__next__", .method, "Implement next(self)."⟩,
  ⟨"__length_hint__", .method, "Private method returning an estimate of len(list(it))."⟩,
  ⟨"__reduce__", .method, "Return state information for pickling."⟩,
  ⟨"__setstate__", .method, "Set state information for unpickling."⟩]

/-- The classes of collections and of what goes through them. -/
def collectionClasses : List ClassInfo := [
  ⟨"dict", ["object"],
    "dict() -> new empty dictionary\ndict(mapping) -> new dictionary initialized from a " ++
    "mapping object's\n    (key, value) pairs\ndict(iterable) -> new dictionary initialized " ++
    "as if via:\n    d = \x7b\x7d\n    for k, v in iterable:\n        d[k] = " ++
    "v\ndict(**kwargs) -> new dictionary initialized with the name=value pairs\n    in the " ++
    "keyword argument list.  For example:  dict(one=1, two=2)", mappingMembers⟩,
  ⟨"enumerate", ["object"],
    "Return an enumerate object.\n\n  iterable\n    an object supporting iteration\n\nThe " ++
    "enumerate object yields pairs containing a count (from start, which\ndefaults to zero) " ++
    "and a value yielded by the iterable argument.\n\nenumerate is useful for obtaining an " ++
    "indexed list:\n    (0, seq[0]), (1, seq[1]), (2, seq[2]), ...", enumerateMembers⟩,
  ⟨"filter", ["object"],
    "filter(function or None, iterable) --> filter object\n\nReturn an iterator yielding " ++
    "those items of iterable for which function(item)\nis true. If function is None, return " ++
    "the items that are true.", filterMembers⟩,
  ⟨"frozenset", ["object"],
    "frozenset() -> empty frozenset object\nfrozenset(iterable) -> frozenset object\n\nBuild " ++
    "an immutable unordered collection of unique elements.", frozensetMembers⟩,
  ⟨"list", ["object"],
    "Built-in mutable sequence.\n\nIf no argument is given, the constructor creates a new " ++
    "empty list.\nThe argument must be an iterable if specified.", listMembers⟩,
  ⟨"map", ["object"],
    "map(func, *iterables) --> map object\n\nMake an iterator that computes the function " ++
    "using arguments from\neach of the iterables.  Stops when the shortest iterable is " ++
    "exhausted.", mapMembers⟩,
  ⟨"range", ["object"],
    "range(stop) -> range object\nrange(start, stop[, step]) -> range object\n\nReturn an " ++
    "object that produces a sequence of integers from start (inclusive)\nto stop (exclusive) " ++
    "by step.  range(i, j) produces i, i+1, i+2, ..., j-1.\nstart defaults to 0, and stop is " ++
    "omitted!  range(4) produces 0, 1, 2, 3.\nThese are exactly the valid indices for a list " ++
    "of 4 elements.\nWhen step is given, it specifies the increment (or decrement).",
    rangeMembers⟩,
  ⟨"reversed", ["object"],
    "Return a reverse iterator over the values of the given sequence.", reversedMembers⟩,
  ⟨"set", ["object"],
    "set() -> new empty set object\nset(iterable) -> new set object\n\nBuild an unordered " ++
    "collection of unique elements.", setMembers⟩,
  ⟨"slice", ["object"],
    "slice(stop)\nslice(start, stop[, step])\n\nCreate a slice object.  This is used for " ++
    "extended slicing (e.g. a[0:10:2]).", sliceMembers⟩,
  ⟨"tuple", ["object"],
    "Built-in immutable sequence.\n\nIf no argument is given, the constructor returns an " ++
    "empty tuple.\nIf iterable is specified the tuple is initialized from iterable's " ++
    "items.\n\nIf the argument is a tuple, the return value is the same object.", tupleMembers⟩,
  ⟨"zip", ["object"],
    "zip(*iterables, strict=False) --> Yield tuples until an input is exhausted.\n\n   >>> " ++
    "list(zip('abcdefg', range(3), range(4)))\n   [('a', 0, 0), ('b', 1, 1), ('c', 2, " ++
    "2)]\n\nThe zip object yields n-length tuples, where n is the number of " ++
    "iterables\npassed as positional arguments to zip().  The i-th element in every " ++
    "tuple\ncomes from the i-th iterable argument to zip().  This continues until " ++
    "the\nshortest argument is exhausted.\n\nIf strict is true and one of the arguments is " ++
    "exhausted before the others,\nraise a ValueError.", zipMembers⟩,
  ⟨"dict_keys", ["object"], "", mappingKeysMembers⟩,
  ⟨"dict_values", ["object"], "", mappingValuesMembers⟩,
  ⟨"dict_items", ["object"], "", mappingItemsMembers⟩,
  ⟨"list_iterator", ["object"], "", listIteratorMembers⟩]

end RouteDocs.Module.Library
