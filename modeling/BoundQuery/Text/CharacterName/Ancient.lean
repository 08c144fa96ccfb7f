/-!
# Names of ancient scripts
-/

namespace BoundQuery.Text.CharacterName

/-- The characters from `U+10000` to `U+13FFF`: ancient scripts. -/
def ancient : String := "
  a+10000+LINEAR B SYLLABLE B008 Au38 Eu28 Iu61 Ou10 Uu01 DAu45 DEu07 DIu14 DOu51 DUv7 JAu46 JE
  u+2+36 JOu65 JUu77 KAu44 KEu67 KIu70 KOu81 KUv0 MAu13 MEu73 MIu15 MOu23 MUu06 NAu24 NEu30 NIu52 NO
  v5 NUu03 PAu72 PEu39 PIu11 POu50 PUu16 QAu78 QEu21 QIu32 QOu+2+60 RAu27 REu53 RIu02 ROu26 RUu31 SA
  u09 SEu41 SIu12 SOu58 SUv9 TAu04 TEu37 TIu05 TOu69 TUu54 WAu75 WEu40 WIv2 WOu+2+17 ZAu74 ZE
  u+2+20 ZOv5 A2u43 A3u85 AUu71 DWEu90 DWOu48 NWAu29 PU2u62 PTEu76 RA2u33 RA3u68 RO2v6 TA2u87 TWE
  u91 TWOl+3+MBOL B018t9s22s34s47t9s56s63t4s79s82t3t6t9j+23+IDEOGRAM B100 MANv2 WOMANv4 DEERv5 EQUID
  wF MAREwM STALLIONv6F EWEwM RAMv7F SHE-GOATwM HE-GOATv8F SOWwM BOARv9F COWwM BULLu20 WHEAT
  v1 BARLEYv2 OLIVEv3 SPICEv5 CYPERUSjMONOGRAM B127 KAPOv8 KANAKOjIDEOGRAM B130 OILv1 WINEv2
  jMONOGRAM B133 AREPAv5 MERIjIDEOGRAM B140 BRONZEv1 GOLDv2v5 WOOLv6u50v1 HORNv2v3v4
  jMONOGRAM B156 TURO2jIDEOGRAM B157v8v9 CLOTHu60v1v2 GARMENTv3 ARMOURv4v5v6v7v8v9u70v1v2v3 MONTHv4
  v6 TREEv7v8v9u80v1v2v3v4v5v9u90v1 HELMETt220 FOOTSTOOLv5 BATHTUBu30 SPEARv1 ARROWv2v3 SWORDv4v6
  u40 WHEELED CHARIOTv1 CHARIOTv2 CHARIOT FRAMEv3 WHEELv5v6jMONOGRAM B247 DIPTEjIDEOGRAM B248v9u51v2
  v3v4 DARTv5v6v7v8v9sVESSEL B155ba200bc1bc2bc3bc4bc5bc6bc7bc8bc9bb10bc1bc2bc3bc4bc5bc6bc7bc8bc9bb21
  bc2bc6bc7bc8bc9bb50ba305a+6+AEGEAN WORD SEPARATOR LINEwDOThCHECK MARKh+5+NUMBER ONEoTWOpHREEoFOUR
  pIVEoSIXpEVENoEIGHToNINEoTENpWENTYpHIRTYoFORTYpIFTYoSIXTYpEVENTYoEIGHTYoNINETYoONE HUNDRED
  oTWO HUNDREDpHREE HUNDREDoFOUR HUNDREDpIVE HUNDREDoSIX HUNDREDpEVEN HUNDREDoEIGHT HUNDRED
  oNINE HUNDREDoONE THOUSANDoTWO THOUSANDpHREE THOUSANDoFOUR THOUSANDpIVE THOUSANDoSIX THOUSAND
  pEVEN THOUSANDoEIGHT THOUSANDoNINE THOUSANDoTEN THOUSANDpWENTY THOUSANDpHIRTY THOUSAND
  oFORTY THOUSANDpIFTY THOUSANDoSIXTY THOUSANDpEVENTY THOUSANDoEIGHTY THOUSANDoNINETY THOUSAND
  h+4+WEIGHT BASE UNIToFIRST SUBUNIToSECOND SUBUNIToTHIRD SUBUNIToFOURTH SUBUNIT
  hDRY MEASURE FIRST SUBUNIThLIQUID MEASURE FIRST SUBUNIThMEASURE SECOND SUBUNITpTHIRD SUBUNIT
  aGREEK ACROPHONIC ATTIC ONE QUARTERbbHALFbbDRACHMAxFIVEzFTYzVE HUNDREDbcTHOUSANDzFTY THOUSAND
  zVE TALENTSxTEN TALENTSxFIFTY TALENTSxONE HUNDRED TALENTSxFIVE HUNDRED TALENTS
  xONE THOUSAND TALENTSxFIVE THOUSAND TALENTSbcSTATERSxTEN STATERSxFIFTY STATERSxONE HUNDRED STATERS
  xFIVE HUNDRED STATERSxONE THOUSAND STATERSxTEN THOUSAND STATERSxFIFTY THOUSAND STATERSxTEN MNAS
  rHERAEUM ONE PLETHRONrTHESPIAN ONErHERMIONIAN ONErEPIDAUREAN TWOrTHESPIAN TWO
  rCYRENAIC TWO DRACHMASrEPIDAUREAN TWO DRACHMASrTROEZENIAN FIVEbcTENbf ALTERNATE FORM
  rHERMIONIAN TENrMESSENIAN TENrTHESPIAN TENbbHIRTYsROEZENIAN FIFTYbh ALTERNATE FORM
  rHERMIONIAN FIFTYrTHESPIAN FIFTYbaONE HUNDREDbaTHREE HUNDREDrEPIDAUREAN FIVE HUNDRED
  rTROEZENIAN FIVE HUNDREDsHESPIAN FIVE HUNDREDrCARYSTIAN FIVE HUNDREDrNAXIAN FIVE HUNDRED
  rTHESPIAN ONE THOUSANDbaFIVE THOUSANDrDELPHIC FIVE MNASrSTRATIAN FIFTY MNASgONE HALF SIGN
  t ALTERNATE FORMgTWO THIRDS SIGNhHREE QUARTERS SIGNgYEAR SIGNgTALENT SIGNgDRACHMA SIGNgOBOL SIGN
  gTWO OBOLS SIGNhHREE OBOLS SIGNgFOUR OBOLS SIGNhIVE OBOLS SIGNgMETRETES SIGNgKYATHOS BASE SIGN
  gLITRA SIGNgOUNKIA SIGNgXESTES SIGNgARTABE SIGNiOURA SIGNgGRAMMA SIGNgTRYBLION BASE SIGNgZERO SIGN
  gONE QUARTER SIGNgSINUSOID SIGNgINDICTION SIGNaNOMISMA SIGNa+2+ROMAN SEXTANS SIGNgUNCIA SIGN
  gSEMUNCIA SIGNiXTULA SIGNgDIMIDIA SEXTULA SIGNgSILIQUA SIGNgDENARIUS SIGNgQUINARIUS SIGN
  gSESTERTIUS SIGNgDUPONDIUS SIGNgAS SIGNgCENTURIAL SIGNaASCIA SYMBOLa+4+GREEK SYMBOL TAU RHO
  a+30+PHAISTOS DISC SIGN PEDESTRIANuLUMED HEADtTATTOOED HEADtCAPTIVEuHILDtWOMANtHELMETtGAUNTLET
  tTIARAtARROWtBOWtSHIELDtCLUBtMANACLESvTTOCKtSAWtLIDtBOOMERANGtCARPENTRY PLANEtDOLIUMtCOMBtSLING
  tCOLUMNtBEEHIVEtSHIPtHORNuIDEtBULLS LEGtCATtRAMtEAGLEtDOVEtTUNNYtBEEtPLANE TREEtVINEtPAPYRUS
  tROSETTEtLILYtOX BACKtFLUTEtGRATERtSTRAINERuMALL AXEtWAVY BANDtCOMBINING OBLIQUE STROKE
  a+83+LYCIAN LETTER AoEoBpHoGoDoIoWoZoTHoJoKoQoLoMoNoMMoNNoUoPoKKoRoSoTpToANoENoHoX
  a+4+CARIAN LETTER AoP2oDoLoUUUoRoLDoA2oQoBoMoOoD2oToSHq2p,oC-18oUoNNoXoNoTT2oPoSSoIoEoUUUUoKp2oND
  oUUoGp2oSTq2oNGoIIoC-39oTToUUU2oRRoMBq2q3q4oLD2oE2oUUU3b+10+OPTIC EPACT THOUSANDS MARKnDIGIT ONE
  tTWOuHREEtFOURuIVEtSIXuEVENtEIGHTtNINEnNUMBER TENvWENTYvHIRTYuFORTYvIFTYuSIXTYvEVENTYuEIGHTY
  uNINETYuONE HUNDREDuTWO HUNDREDvHREE HUNDREDuFOUR HUNDREDvIVE HUNDREDuSIX HUNDREDvEVEN HUNDRED
  uEIGHT HUNDREDuNINE HUNDREDa+5+OLD ITALIC LETTER AsBEsKEsDEsEsVEsZEsHEsTHEsIsKAsELtMtNtSHsOsPEsSHE
  sKUsERtSsTEsUsEKSsPHEsKHEsEFtRSsCHEsIIsUUsESSlNUMERAL ONEtFIVEtTENtFIFTYl+a+LETTER YEsNORTHERN TSE
  sSOUTHERN TSEaGOTHIC LETTER AHSAoBAIRKANoGIBAoDAGSoAIHVUSoQAIRTHRAoIUJAoHAGLoTHIUTHoEISoKUSMA
  oLAGUSoMANNAoNAUTHSoJERoURUSoPAIRTHRAoNINETYoRAIDAoSAUILoTEIWSoWINJAoFAIHUoIGGWSoHWAIRoOTHAL
  oNINE HUNDREDa+6+OLD PERMIC LETTER ANsBURsGAIsDOIsEsZHOIsDZHOIsZATAsDZITAsIsKOKEsLEIsMENOEsNENOE
  sVOOIsPEEIsREIsSIIsTAIsUsCHERYsSHOOIuCHOOIsYRYtERUsOtOsEFsHAsTSIUsVERsYERvItATsIEsYUtAsIA
  aCOMBINING OLD PERMIC LETTER ANbcDOIbcZATAbcNENOEbcSIIa+6+UGARITIC LETTER ALPAqBETAqGAMLAqKHA
  qDELTAqHOqWOqZETAqHOTAqTETqYODqKAFqSHINqLAMDAqMEMqDHALqNUNqZUqSAMKAqAINqPUqSADEqQOPAqRASHAqTHANNA
  qGHAINqTOqIqUqSSUj+2+WORD DIVIDERaOLD PERSIAN SIGN ArIrUrKAsUrGAsUrXArCArJAsIrTAsUrDAsIsUrTHArPA
  rBArFArNAsUrMAsIsUrYArVAsIrRAsUrLArSArZArSHAsSArHAr+5+AURAMAZDAAbb-2bbHArXSHAAYATHIYArDAHYAAUSH
  ba-2rBAGAsUUMISHmWORD DIVIDERmNUMBER ONEtTWOuENuWENTYtHUNDREDa+2b+DESERET CAPITAL LETTER LONG IbcE
  bcAbdHbcObdOxSHORT IbdEbdAbeHbdObeOxAYxOWxWUxYEExHxPEExBEExTEExDEExCHEExJEExKAYxGAYxEFxVEExETH
  xTHEExESxZEExESHxZHEExERyLyMyNzGxOIxEWiSMALL LETTER LONG IbaEbaAbbHbaObbOvSHORT IbbEbbAbcHbbObcO
  vAYvOWvWUvYEEvHvPEEvBEEvTEEvDEEvCHEEvJEEvKAYvGAYvEFvVEEvETHvTHEEvESvZEEvESHvZHEEvERwLwMwNxGvOIvEW
  aSHAVIAN LETTER PEEPpTOTpKICKpFEEpTHIGHpSOqUREpCHURCHpYEApHUNGpBIBpDEADpGAGpVOWpTHEYpZOOpMEASURE
  pJUDGEpWOEpHA-HApLOLLpMIMEpIFpEGGpASHqDOpONpWOOLpOUTpAHpROARpNUNpEATpAGEpICEpUPpOAKqOZEqILpAWEqRE
  pORpAIRpERRpARRAYpEARpIANpYEWaOSMANYA LETTER ALEFpBApTApJApXApKHApDEELpRApSAqHIINpDHApCAYNpGApFA
  pQAAFpKAAFpLAANpMIINpNUUNpWAWpHApYApApEpIpOpUpAApEEpOOi+3+DIGIT ZEROoONEoTWOpHREEoFOURpIVEoSIX
  pEVENoEIGHToNINEc+7+AGE CAPITAL LETTER AwIxNwHvBRAvCHAvEHCHAw,wINvHAwYAvIvKAvEHKAvKYAvLAvMAvNAvO
  wINvPAvEHPAvSAwHAvTAvEHTAvTSAvEHTSAvTSHAvDHAvUvWAvKHAvGHAvZAwHAg+5+SMALL LETTER AuIvNuHtBRAtCHA
  tEHCHAu,uINtHAuYAtItKAtEHKAtKYAtLAtMAtNAtOuINtPAtEHPAtSAuHAtTAtEHTAtTSAtEHTSAtTSHAtDHAtUtWAtKHA
  tGHAtZAuHAa+5+ELBASAN LETTER ApBEpCEqHEpDEpNDEpDHEpEIq,pFEpGEqJEpHEpIpJEpKEpLEqLEpMEpNEqAqJEpOpPE
  pQEpREqREpSEqHEpTEqHEpUpVEpXEpYpZEqHEpGHErAMMApKHEa+9+CAUCASIAN ALBANIAN LETTER ALTbaBETbaGIMbaDAT
  baEBbaZARLbaEYNbaZHILbaTASbaCHAbaYOWDbaZHAbaIRBbaSHAbaLANbaINYAbaXEYNbaDYANbaCARbaJHOXbaKARbaLYIT
  baHEYTbaQAYbaAORbaCHOYbcIbbYAYbaMAQbaQARbaNOWCbaDZYAYbaSHAKbaJAYNbaONbaTYAYbaFAMbaDZAYbaCHATbaPEN
  baGHEYSbaRATbaSEYKbaVEYZbaTIWRbaSHOYbaIWNbaCYAWbbAYNbaYAYDbaPIWRbaKIWt+c+CITATION MARK
  aVITHKUQI CAPITAL LETTER AyBBEzEyCEzHEyDEzHEyEIz,yFEyGAy+2+HAzHAyIzJEyJEyKAyLAzLAyMEyNEzJEyOyPEyQA
  yREy+2+SEzHEyTEzHEyUyVEyXEy+2+YyZEj+2+SMALL LETTER AwBBExEwCExHEwDExHEwEIx,wFEwGAw+2+HAxHAwIxJEwJE
  wKAwLAxLAwMEwNExJEwOwPEwQAwREw+2+SExHEwTExHEwUwVEwXEw+2+YwZEa+44+LINEAR A SIGN AB001s2s3s4s5s6s7s8
  s9r10s1s3s6s7r20s1tFtMs2tFtMs3tMs4s6s7s8p028BpB029r30s1s4s7s8s9r40s1s4s5s6s7s8s9r50s1s3s4s5s6s7s8
  s9r60s1s5s6s7s9r70s3s4s6s7s8s9r80s1s2s5s6s7p100-102pB118r20p120BpB122s3r31AtBp131CpB164r71r80s8r91
  p301r2r3r4r5r6r7r8r9AsBsCq10r1r2r3AsBsCr4r5r6r7r8r9q20r1r2r3r4r5r6r7r8r9q30r1r2r3r4r5r6r7r8r9q40r1
  r2r3r4r5r6r7r8r9q50r1r2r3r4r5r6r7r8r9q60r1r2r3r4r5r6r7r8r9q70r1p400-VASr1-VASr2-VASr3-VASr4-VAS
  r5-VASr6-VASr7-VASr8-VASr9-VASq10-VASr1-VASr2-VASr3-VASr4-VASr5-VASr6-VASr7-VASr8-VASp501r2r3r4r5
  r6r8r9q10r1r2r3r5r6q20r1r3r4r5r6r7r8r9q30r1r2r4r5r6r7r8r9q40r1r2r5r7r8r9q50r1r2r3r4r5r6r7r9q63r4r5
  r6r8r9q70r1r2r3r4r5r6r7r8r9q80r1r2r3r4r5r6r7r8r9q91r2r4r5r6r8p600r1r2r3r4r6r8r9q10r1r2r3r4r5r6r7r8
  r9q20r1r2r3r4r6r7r8r9q34r7r8q40r2r3r4r5r6r8r9q51r2r3r4r5r6r7r8r9q60r1r2r3r4p+a+701 Ar2 Br3 Dr4 E
  r5 Fr6 Hr7 Jr8 Kr9 Ls-2 L2t3 L3t4 L4t6 L6q10 Wr1 Xr2 Yr3 OMEGAr4 ABBr5 BBr7 DDq26 EYYYq32 JE
  p+b+800r1r2r3r4r5r6r7a+19+MODIFIER LETTER SMALL CAPITAL AArUPERSCRIPT TRIANGULAR COLON
  bcHALF TRIANGULAR COLONrMALL AEwCAPITAL BwB WITH HOOKw+2+DZ DIGRAPHbg WITH RETROFLEX HOOKbmCURL
  xEZH DIGRAPHx WITH TAILbdHOOKbh AND TAILwREVERSED EwCLOSED REVERSED OPEN EwFENG DIGRAPHwRAMS HORN
  wCAPITAL GwG WITH HOOKwCAPITAL G WITH HOOKwH WITH STROKEwCAPITAL HwHENG WITH HOOK
  wDOTLESS J WITH STROKE AND HOOKwLS DIGRAPHxZ DIGRAPHx WITH BELTwCAPITAL L WITH BELT
  wL WITH RETROFLEX HOOK AND BELTxEZHba WITH RETROFLEX HOOKwTURNED Ybe WITH BELTwO WITH STROKE
  wCAPITAL OExLOSED OMEGAwQwTURNED R WITH LONG LEGbs AND RETROFLEX HOOKwR WITH TAILbdFISHHOOK
  wCAPITAL RwTC DIGRAPH WITH CURLxS DIGRAPHbg WITH RETROFLEX HOOKxESH DIGRAPHx WITH RETROFLEX HOOK
  wV WITH RIGHT HOOKw+2+CAPITAL YqGLOTTAL STOP WITH STROKEqREVERSED GLOTTAL STOP WITH STROKE
  qBILABIAL CLICKqDENTAL CLICKqLATERAL CLICKqALVEOLAR CLICKqRETROFLEX CLICK WITH RETROFLEX HOOK
  qSMALL S WITH CURLa+46+CYPRIOT SYLLABLE ArErIrOrUrJAs+3+Or+2+KAsEsIsOsUrLAsEsIsOsUrMAsEsIsOsUrNAsE
  sIsOsUrPAsEsIsOsUrRAsEsIsOsUrSAsEsIsOsUrTAsEsIsOsUrWAsEsIsOr+2+XAsEr+4+ZAs+3+O
  aIMPERIAL ARAMAIC LETTER ALEPHyBETHyGIMELyDALETHyHEyWAWyZAYINyHETHyTETHyYODHyKAPHyLAMEDHyMEMyNUN
  ySAMEKHyAYINyPEySADHEyQOPHyRESHySHINyTAWr+2+SECTION SIGNrNUMBER ONEyTWOzHREEzENzWENTYyONE HUNDRED
  bcTHOUSANDyTEN THOUSANDaPALMYRENE LETTER ALEPHrBETHrGIMELrDALETHrHErWAWrZAYINrHETHrTETHrYODHrKAPH
  rLAMEDHrMEMrFINAL NUNrNUNrSAMEKHrAYINrPErSADHErQOPHrRESHrSHINrTAWmFT-POINTING FLEURON
  kRIGHT-POINTING FLEURONkNUMBER ONErTWOsHREErFOURsIVErTENsWENTYaNABATAEAN LETTER FINAL ALEPHrALEPH
  rFINAL BETHrBETHrGIMELrDALETHrFINAL HErHErWAWrZAYINrHETHrTETHrFINAL YODHrYODHrFINAL KAPHrKAPH
  rFINAL LAMEDHrLAMEDHrFINAL MEMrMEMrFINAL NUNrNUNrSAMEKHrAYINrPErSADHErQOPHrRESHrFINAL SHINrSHIN
  rTAWk+9+NUMBER ONErTWOsHREErFOURkCRUCIFORM NUMBER FOURkNUMBER FIVErTENsWENTYrONE HUNDRED
  a+31+HATRAN LETTER ALEPHoBETHoGIMELoDALETH-RESHoHEoWAWoZAYNoHETHoTETHoYODHoKAPHoLAMEDHoMEMoNUN
  oSAMEKHoAYNoPEoSADHEoQOPHo+2+SHINoTAWh+6+NUMBER ONEoFIVEoTENpWENTYoONE HUNDRED
  aPHOENICIAN LETTER ALFsBETsGAMLsDELTsHEsWAUsZAIsHETsTETsYODsKAFsLAMDsMEMsNUNsSEMKsAINsPEsSADEsQOF
  sROSHsSHINsTAUlNUMBER ONEsTENtWENTYsONE HUNDREDsTWOtHREEl+4+WORD SEPARATORaLYDIAN LETTER AoBoGoDoE
  oVoIoYoKoLoMoNoOoRoSSoToUoFoQoSoTToANoENoLYoNNoCh+6+TRIANGULAR MARK
  a+41+MEROITIC HIEROGLYPHIC LETTER AbdEbdIbdObdYAbdWAbdBAbf-2bdPAbdMAbdNAbf-2beEbf-2bdRAbf-2bdLA
  bdKHAbdHHAbdSAbf-2beEbdKAbdQAbdTAbf-2beEbf-2beObdDAwSYMBOL VIDJbh-2jCURSIVE LETTER AyEyIyOyYAyWA
  yBAyPAyMAyNAzEyRAyLAyKHAyHHAySAyARCHAIC SAySEyKAyQAyTAzEzOyDAr+5+FRACTION ELEVEN TWELFTHS
  baONE HALFrLOGOGRAM RMTbaIMNrNUMBER ONEyTWOzHREEyFOURzIVEySIXzEVENyEIGHTyNINEyTENzWENTYzHIRTY
  yFORTYzIFTYySIXTYzEVENTYy+3+ONE HUNDREDyTWO HUNDREDzHREE HUNDREDyFOUR HUNDREDzIVE HUNDRED
  ySIX HUNDREDzEVEN HUNDREDyEIGHT HUNDREDyNINE HUNDREDyONE THOUSANDyTWO THOUSANDzHREE THOUSAND
  yFOUR THOUSANDzIVE THOUSANDySIX THOUSANDzEVEN THOUSANDyEIGHT THOUSANDyNINE THOUSANDyTEN THOUSAND
  zWENTY THOUSANDzHIRTY THOUSANDyFORTY THOUSANDzIFTY THOUSANDySIXTY THOUSANDzEVENTY THOUSAND
  yEIGHTY THOUSANDyNINETY THOUSANDyONE HUNDRED THOUSANDyTWO HUNDRED THOUSANDzHREE HUNDRED THOUSAND
  yFOUR HUNDRED THOUSANDzIVE HUNDRED THOUSANDySIX HUNDRED THOUSANDzEVEN HUNDRED THOUSAND
  yEIGHT HUNDRED THOUSANDyNINE HUNDRED THOUSANDrFRACTION ONE TWELFTHbaTWO TWELFTHSbbHREE TWELFTHS
  baFOUR TWELFTHSbbIVE TWELFTHSbaSIX TWELFTHSbbEVEN TWELFTHSbaEIGHT TWELFTHSbaNINE TWELFTHS
  baTEN TWELFTHSaKHAROSHTHI LETTER AlVOWEL SIGN IwUwVOCALIC Rw+2+EwOr+6+LENGTH MARK
  lSIGN DOUBLE RING BELOWqANUSVARAqVISARGAlLETTER KAtHAsGAtHAs+2+CAtHAsJAs+2+NYAsTTAuHAsDDAuHAsNNA
  sTAtHAsDAtHAsNAsPAtHAsBAtHAsMAsYAsRAsLAsVAsSHAtSAtAsZAsHAsKKAsTTTHAvAsVHAl+3+SIGN BAR ABOVEqCAUDA
  qDOT BELOWl+5+VIRAMAlDIGIT ONErTWOsHREErFOURlNUMBER TENtWENTYsONE HUNDREDwTHOUSAND
  lFRACTION ONE HALFl+8+PUNCTUATION DOTxSMALL CIRCLExCIRCLEyRESCENT BARxMANGALAMxLOTUSxDANDA
  yOUBLE DANDAxLINESa+8+OLD SOUTH ARABIAN LETTER HEzLAMEDHzHETHzMEMzQOPHzWAWzSHINzRESHzBETHzTAWzSAT
  zKAPHzNUNzKHETHzSADHEbbMEKHzFEzALEFbaYNzDHADHEzGIMELzDALETHzGHAYNzTETHzZAYNzDHALETHzYODHzTHAWbbETH
  sNUMBER ONEzFIFTYvERIC INDICATOReNORTH ARABIAN LETTER HEHzLAMzHAHzMEEMzQAFzWAWzES-2zREHzBEHzTEH
  zES-1zKAFzNOONzKHAHzSADzES-3zFEHzALEFbaINzDADzGEEMzDALzGHAINzTAHzZAINzTHALzYEHzTHEHzZAHsNUMBER ONE
  zTENbaWENTYa+21+MANICHAEAN LETTER ALEPHsBETHtHETHsGIMELtHIMELsDALETHsHEsWAWlSIGN UDlLETTER ZAYIN
  tHAYINsJAYINtHAYINsHETHsTETHsYODHsKAPHsXAPHsKHAPHsLAMEDHsDHAMEDHsTHAMEDHsMEMsNUNsSAMEKHsAYINtAYIN
  sPEsFEsSADHEsQOPHsXOPHsQHOPHsRESHsSHINtSHINsTAWlABBREVIATION MARK ABOVEbdBELOWl+5+NUMBER ONEsFIVE
  sTENtWENTYsONE HUNDREDlPUNCTUATION STARxFLEURONxDOUBLE DOT WITHIN DOTzT WITHIN DOTba,xTWO DOTS
  xLINE FILLERa+a+AVESTAN LETTER AqAqOqAOqNqANqErEpEqEpOqOpIqIpUqUpKEpXEqYEqVEpGEqGEqHEpCEpJEpTEqHE
  pDEqHEpTTEpPEpFEpBEqHEpNGErYErVEqEqYEqNEpMEpHMEpYYEqEpVEpREpLEpSEpZEpSHEpZHEpSHYEqSHEpHE
  i+4+ABBREVIATION MARKaTINY TWO DOTS OVER ONE DOT PUNCTUATION
  aSMALL TWO DOTS OVER ONE DOT PUNCTUATIONaLARGE TWO DOTS OVER ONE DOT PUNCTUATION
  gONE DOT OVER TWO DOTS PUNCTUATIONgTWO RINGS OVER ONE RING PUNCTUATION
  gONE RING OVER TWO RINGS PUNCTUATIONaINSCRIPTIONAL PARTHIAN LETTER ALEPHbeBETHbeGIMELbeDALETHbeHE
  beWAWbeZAYINbeHETHbeTETHbeYODHbeKAPHbeLAMEDHbeMEMbeNUNbeSAMEKHbeAYINbePEbeSADHEbeQOPHbeRESHbeSHIN
  beTAWx+3+NUMBER ONEbeTWObfHREEbeFOURbeTENbfWENTYbeONE HUNDREDbiTHOUSANDqHLAVI LETTER ALEPHbdBETH
  bdGIMELbdDALETHbdHEbdWAW-AYIN-RESHbdZAYINbdHETHbdTETHbdYODHbdKAPHbdLAMEDHbdMEM-QOPHbdNUNbdSAMEKH
  bdPEbdSADHEbeHINbdTAWw+6+NUMBER ONEbdTWObeHREEbdFOURbdTENbeWENTYbdONE HUNDREDbhTHOUSAND
  aPSALTER PAHLAVI LETTER ALEPHxBETHxGIMELxDALETHxHExWAW-AYIN-RESHxZAYINxHETHxYODHxKAPHxLAMEDH
  xMEM-QOPHxNUNxSAMEKHxPExSADHEyHINxTAWq+8+SECTION MARKqTURNED SECTION MARKqFOUR DOTS WITH CROSS
  bfDOTq+d+NUMBER ONExTWOyHREExFOURxTENyWENTYxONE HUNDREDa+51+OLD TURKIC LETTER ORKHON AsYENISEI A
  bbEsORKHON IsYENISEI IbaEsORKHON ObaEsYENISEI OEsORKHON ABsYENISEI ABsORKHON AEBsYENISEI AEB
  sORKHON AGsYENISEI AGsORKHON AEGsYENISEI AEGsORKHON ADsYENISEI ADsORKHON AEDzEZsYENISEI EZ
  sORKHON AYsYENISEI AYsORKHON AEYsYENISEI AEYsORKHON AEKsYENISEI AEKsORKHON OEKsYENISEI OEK
  sORKHON ALsYENISEI ALsORKHON AELzELTbaMzANbaENsYENISEI AENsORKHON ENTsYENISEI ENTsORKHON ENC
  sYENISEI ENCsORKHON ENYsYENISEI ENYbaANGsORKHON ENGsYENISEI AENGsORKHON EPzOPzICzECsYENISEI EC
  sORKHON AQsYENISEI AQsORKHON IQsYENISEI IQsORKHON OQsYENISEI OQsORKHON ARsYENISEI ARsORKHON AERbaS
  baESbaSHsYENISEI ASHsORKHON ESHsYENISEI ESHsORKHON ATsYENISEI ATsORKHON AETsYENISEI AETsORKHON OT
  zBASHe+38+HUNGARIAN CAPITAL LETTER AbeAbdEBbdAMBbdECbeNCbeCSbeDbdANDbdEbdCLOSE EbdEEbeFbeGbfYbeH
  bdIbeIbdEJbeKbdAKbdUNKbdELbfYbeMbeNbfYbdObeObdNIKOLSBURG OEbdRUDIMENTA OEbdOEEbdEPbeMPbeR
  bdSHORT ERbdESbfZbeTbeNTbeTYbeCHbdUbeUbdNIKOLSBURG UEbdRUDIMENTA UEbdEVbeZbfSbeNT-SHAPED SIGNbdUS
  o+e+SMALL LETTER AbcAbbEBbbAMBbbECbcNCbcCSbcDbbANDbbEbbCLOSE EbbEEbcFbcGbdYbcHbbIbcIbbEJbcKbbAK
  bbUNKbbELbdYbcMbcNbdYbbObcObbNIKOLSBURG OEbbRUDIMENTA OEbbOEEbbEPbcMPbcRbbSHORT ERbbESbdZbcTbcNT
  bcTYbcCHbbUbcUbbNIKOLSBURG UEbbRUDIMENTA UEbbEVbcZbdSbcNT-SHAPED SIGNbbUSo+8+NUMBER ONEvFIVEvTEN
  vFIFTYvONE HUNDREDzTHOUSANDaHANIFI ROHINGYA LETTER AxBAxPAxTAyTAxJAxCAxHAxKHAxFAxDAyDAxRAyRAxZAxSA
  yHAxKAxGAxLAxMAxNAxWAxKINNA WAxYAxKINNA YAxNGAyYAxVAqVOWEL AwIwUwEwOqMARK SAKINvNA KHONNA
  qSIGN HARBAHAYvTAHALAxNAxSSIq+9+DIGIT ZEROwONEwTWOxHREEwFOURxIVEwSIXxEVENwEIGHTwNINE
  a+127+RUMI DIGIT ONElTWOmHREElFOURmIVElSIXmEVENlEIGHTlNINEfNUMBER TENnWENTYnHIRTYmFORTYnIFTYmSIXTY
  nEVENTYmEIGHTYmNINETYmONE HUNDREDmTWO HUNDREDnHREE HUNDREDmFOUR HUNDREDnIVE HUNDREDmSIX HUNDRED
  nEVEN HUNDREDmEIGHT HUNDREDmNINE HUNDREDfFRACTION ONE HALFsQUARTERsTHIRDoTWO THIRDS
  a+2+YEZIDI LETTER ELIFoBEoPEpHEoTHEoSEoCIMpHIMqHIMoHHAoXAoDALoZALoRApHAoZAoJAoSINpHINpADoDADoTAoZE
  oEYNoXHEYNoFAoVAq ALTERNATE FORMoQAFoKAFpHAFoGAFoLAMoMIMoNUNoUMoWAWoOWoEWoHAYoYOToET
  h+2+COMBINING HAMZA MARKrMADDA MARKhHYPHENATION MARKh+3+LETTER LAM WITH DOT ABOVE
  oYOT WITH CIRCUMFLEX ABOVEa+4f+OLD SOGDIAN LETTER ALEPHtFINAL ALEPHtBETHtFINAL BETHtGIMELtHE
  tFINAL HEtWAWtZAYINtHETHtYODHtKAPHtLAMEDHtMEMtNUNtFINAL NUNbc WITH VERTICAL TAILtSAMEKHtAYIN
  uLTERNATE AYINtPEtSADHEtFINAL SADHEbe WITH VERTICAL TAILtRESH-AYIN-DALETHtSHINtTAWtFINAL TAW
  bc WITH VERTICAL TAILmNUMBER ONEtTWOuHREEtFOURuIVEtTENuWENTYuHIRTYtONE HUNDREDmFRACTION ONE HALF
  mLIGATURE AYIN-DALETHa+9+SOGDIAN LETTER ALEPHpBETHpGIMELpHEpWAWpZAYINpHETHpYODHpKAPHpLAMEDHpMEM
  pNUNpSAMEKHpAYINpPEpSADHEpRESH-AYINpSHINpTAWpFETHpLESHiINDEPENDENT SHINiCOMBINING DOT BELOW
  sTWO DOTS BELOWsDOT ABOVEsTWO DOTS ABOVEsCURVE ABOVEyBELOWsHOOK ABOVExBELOWsLONG HOOK BELOW
  sRESH BELOWsSTROKE BELOWiNUMBER ONEpTENqWENTYpONE HUNDREDiPUNCTUATION TWO VERTICAL BARS
  bl WITH DOTSuCIRCLE WITH DOTuTWO CIRCLES WITH DOTSuHALF CIRCLE WITH DOT
  a+17+OLD UYGHUR LETTER ALEPHsBETHsGIMEL-HETHsWAWsZAYINsFINAL HETHsYODHsKAPHsLAMEDHsMEMsNUNsSAMEKH
  sPEsSADHEsRESHsSHINsTAWsLESHlCOMBINING DOT ABOVEzBELOWvTWO DOTS ABOVEbeBELOWlPUNCTUATION BAR
  xTWO BARSbbDOTSxFOUR DOTSa+27+CHORASMIAN LETTER ALEPHsSMALL ALEPHsBETHsGIMELsDALETHsHEsWAW
  sCURLED WAWsZAYINsHETHsYODHsKAPHsLAMEDHsMEMsNUNsSAMEKHsAYINsPEsRESHsSHINsTAWlNUMBER ONEsTWOtHREE
  sFOURsTENtWENTYsONE HUNDREDa+15+ELYMAIC LETTER ALEPHpBETHpGIMELpDALETHpHEpWAWpZAYINpHETHpTETHpYODH
  pKAPHpLAMEDHpMEMpNUNpSAMEKHpAYINpPEpSADHEpQOPHpRESHpSHINpTAWjIGATURE ZAYIN-YODH
  a+a+BRAHMI SIGN CANDRABINDUmANUSVARAmVISARGAmJIHVAMULIYAmUPADHMANIYAhLETTER ApAoIpIoUpUoVOCALIC R
  xRwLxLoEoAIoOoAUoKApHAoGApHAoNGAoCApHAoJApHAoNYAoTTAqHAoDDAqHAoNNAoTApHAoDApHAoNAoPApHAoBApHAoMA
  oYAoRAoLAoVAoSHApSApAoHAoLLAoOLD TAMIL LLLAyRRAyNNNAhVOWEL SIGN AAsBHATTIPROLU AAsItIsUtU
  sVOCALIC RbbRbaLbbLsEsAIsOsAUiIRAMAhDANDAiOUBLE DANDAhPUNCTUATION DOTvUBLE DOTtLINEtCRESCENT BAR
  tLOTUSh+5+NUMBER ONEoTWOpHREEoFOURpIVEoSIXpEVENoEIGHToNINEoTENpWENTYpHIRTYoFORTYpIFTYoSIXTYpEVENTY
  oEIGHTYoNINETYoONE HUNDREDsTHOUSANDhDIGIT ZEROnONEnTWOoHREEnFOURoIVEnSIXoEVENnEIGHTnNINE
  hSIGN OLD TAMIL VIRAMAhLETTER OLD TAMIL SHORT EbeOhVOWEL SIGN OLD TAMIL SHORT EbiO
  hLETTER OLD TAMIL LLAh+a+NUMBER JOINERaKAITHI SIGN CANDRABINDUmANUSVARAmVISARGAhLETTER ApAoIpIoUpU
  oEoAIoOoAUoKApHAoGApHAoNGAoCApHAoJApHAoNYAoTTAqHAoDDAqDHAqHAoRHAoNNAoTApHAoDApHAoNAoPApHAoBApHAoMA
  oYAoRAoLAoVAoSHApSApAoHAhVOWEL SIGN AAsItIsUtUsEsAIsOsAUhSIGN VIRAMAmNUKTAhABBREVIATION SIGN
  hENUMERATION SIGNhNUMBER SIGNhSECTION MARKhDOUBLE SECTION MARKiANDAiOUBLE DANDA
  hVOWEL SIGN VOCALIC Rh+b+NUMBER SIGN ABOVEa+3+SORA SOMPENG LETTER SAHuTAHuBAHuCAHuDAHuGAHuMAHuNGAH
  uLAHuNAHuVAHuPAHuYAHuRAHuHAHuKAHuJAHuNYAHuAHuEEHuIHuUHuOHuEHuMAEn+8+DIGIT ZEROtONEtTWOuHREEtFOUR
  uIVEtSIXuEVENtEIGHTtNINEa+7+CHAKMA SIGN CANDRABINDUmANUSVARAmVISARGAhLETTER AAoIoUoEoKAApHAAoGAA
  pHAAoNGAAoCAApHAAoJAApHAAoNYAAoTTAAqHAAoDDAAqHAAoNNAAoTAApHAAoDAApHAAoNAAoPAApHAAoBAApHAAoMAAoYYAA
  pAAoRAAoLAAoWAAoSAAoHAAhVOWEL SIGN AsItIsUtUsEsAIsOsAUsOIhO MARKhAU MARKhVIRAMAhMAAYYAA
  h+2+DIGIT ZEROnONEnTWOoHREEnFOURoIVEnSIXoEVENnEIGHTnNINEhSECTION MARKhDANDAiOUBLE DANDA
  hQUESTION MARKhLETTER LHAAhVOWEL SIGN AAsEIhLETTER VAAa+9+MAHAJANI LETTER AqIqUqEqOqKArHAqGArHAqCA
  rHAqJArHAqNYAqTTAsHAqDDAsHAqNNAqTArHAqDArHAqNAqPArHAqBArHAqMAqRAqLAqVAqSAqHAqRRAjSIGN NUKTA
  jABBREVIATION SIGNjSECTION MARKjLIGATURE SHRIa+a+SHARADA SIGN CANDRABINDUnANUSVARAnVISARGA
  iLETTER AqApIqIpUqUpVOCALIC RyRxLyLpEpAIpOpAUpKAqHApGAqHApNGApCAqHApJAqHApNYApTTArHApDDArHApNNApTA
  qHApDAqHApNApPAqHApBAqHApMApYApRApLAqLApVApSHAqSAqApHAiVOWEL SIGN AAtIuItUuUtVOCALIC RbcRbbLbcLtE
  tAItOtAUiSIGN VIRAMAnAVAGRAHAnJIHVAMULIYAnUPADHMANIYAiOMiDANDAjOUBLE DANDAiABBREVIATION SIGN
  iSEPARATORjANDHI MARKjIGN NUKTAiVOWEL MODIFIER MARKiEXTRA SHORT VOWEL MARKiSUTRA MARK
  iVOWEL SIGN PRISHTHAMATRA EiSIGN INVERTED CANDRABINDUiDIGIT ZEROoONEoTWOpHREEoFOURpIVEoSIXpEVEN
  oEIGHToNINEiEKAMiSIGN SIDDHAMiHEADSTROKEiCONTINUATION SIGNiSECTION MARK-1v2
  b+2+INHALA ARCHAIC DIGIT ONEwTWOxHREEwFOURxIVEwSIXxEVENwEIGHTwNINEqNUMBER TENyWENTYyHIRTYxFORTY
  yIFTYxSIXTYyEVENTYxEIGHTYxNINETYxONE HUNDREDbbTHOUSANDa+c+KHOJKI LETTER ApAoIoUoEoAIoOoAUoKApHAoGA
  pGApHAoNGAoCApHAoJApJAo+2+NYAoTTAqHAoDDAqHAoNNAoTApHAoDApDDApHAoNAoPApHAoBApBApHAoMAoYAoRAoLAoVA
  oSAoHAoLLAhVOWEL SIGN AAsItIsUsEsAIsOsAUhSIGN ANUSVARAmVIRAMAmNUKTAmSHADDAhDANDAiOUBLE DANDA
  hWORD SEPARATORhSECTION MARKhDOUBLE SECTION MARKhABBREVIATION SIGNhSIGN SUKUNa+42+MULTANI LETTER A
  pIpUpEpKAqHApGAq+2+HAp+2+CAqHApJAqJAp+2+NYApTTArHApDDArDArHApNNApTAqHApDAqHApNApPAqHApBAq+2+HApMA
  pYApRApLApVApSApHApRRAqHAiSECTION MARKa+7+KHUDAWADI LETTER AsArIsIrUsUrErAIrOrAUrKAsHArGAsGAsHA
  rNGArCAsHArJAsJAsHArNYArTTAtHArDDAtDArRRArDDHArNNArTAsHArDAsHArNArPAsHArBAsBAsHArMArYArRArLArVA
  rSHAsArHAkSIGN ANUSVARAkVOWEL SIGN AAvIwIvUwUvEvAIvOvAUkSIGN NUKTApVIRAMAk+6+DIGIT ZEROqONEqTWO
  rHREEqFOURrIVEqSIXrEVENqEIGHTqNINEa+7+GRANTHA SIGN COMBINING ANUSVARA ABOVEoANDRABINDUnANUSVARA
  nVISARGAi+2+LETTER AqApIqIpUqUpVOCALIC RxLp+3+EEpAIp+3+OOpAUpKAqHApGAqHApNGApCAqHApJAqHApNYApTTA
  rHApDDArHApNNApTAqHApDAqHApNAp+2+PAqHApBAqHApMApYApRAp+2+LAqLAp+2+VApSHAqSAqApHA
  a+2+COMBINING BINDU BELOWaGRANTHA SIGN NUKTAnAVAGRAHAiVOWEL SIGN AAtIuItUuUtVOCALIC RbcRt+3+EEtAI
  t+3+OOtAUiSIGN VIRAMAi+3+OMi+7+AU LENGTH MARKi+6+SIGN PLUTAiLETTER VEDIC ANUSVARAvDOUBLE ANUSVARA
  qOCALIC RRxLLiVOWEL SIGN VOCALIC LbcLa+3+COMBINING GRANTHA DIGIT ZEROyONEyTWOzHREEyFOURzIVEySIX
  s+4+LETTER AzKAzNAzVIzPAa+8c+NEWA LETTER AnAmInImUnUmVOCALIC RvRuLvLmEmAImOmAUmKAnHAmGAnHAmNGAoHA
  mCAnHAmJAnHAmNYAoHAmTTAoHAmDDAoHAmNNAmTAnHAmDAnHAmNAnHAmPAnHAmBAnHAmMAnHAmYAmRAnHAmLAnHAmWAmSHAnSA
  nAmHAfVOWEL SIGN AAqIrIqUrUqVOCALIC RzRyLzLqEqAIqOqAUfSIGN VIRAMAkCANDRABINDUkANUSVARAkVISARGA
  kNUKTAkAVAGRAHAkFINAL ANUSVARAfOMfSIDDHIfDANDAgOUBLE DANDAfCOMMAfGAP FILLERfABBREVIATION SIGN
  fDIGIT ZEROlONElTWOmHREElFOURmIVElSIXmEVENlEIGHTlNINEgOUBLE COMMAfPLACEHOLDER MARK
  f+2+INSERTION SIGNfSANDHI MARKfLETTER VEDIC ANUSVARAfSIGN JIHVAMULIYAkUPADHMANIYAa+1f+TIRHUTA ANJI
  iLETTER AqApIqIpUqUpVOCALIC RyRxLyLpEpAIpOpAUpKAqHApGAqHApNGApCAqHApJAqHApNYApTTArHApDDArHApNNApTA
  qHApDAqHApNApPAqHApBAqHApMApYApRApLApVApSHAqSAqApHAiVOWEL SIGN AAtIuItUuUtVOCALIC RbcRbbLbcLtE
  tSHORT EtAItOtSHORT OtAUiSIGN CANDRABINDUnANUSVARAnVISARGApRAMAnNUKTAnAVAGRAHAiGVANG
  iABBREVIATION SIGNiOMi+9+DIGIT ZEROoONEoTWOpHREEoFOURpIVEoSIXpEVENoEIGHToNINEa+a7+SIDDHAM LETTER A
  qApIqIpUqUpVOCALIC RyRxLyLpEpAIpOpAUpKAqHApGAqHApNGApCAqHApJAqHApNYApTTArHApDDArHApNNApTAqHApDAqHA
  pNApPAqHApBAqHApMApYApRApLApVApSHAqSAqApHAiVOWEL SIGN AAtIuItUuUtVOCALIC RbcRt+3+EtAItOtAU
  iSIGN CANDRABINDUnANUSVARAnVISARGApRAMAnNUKTAnSIDDHAMiDANDAjOUBLE DANDAiSEPARATOR DOTsBAR
  iREPETITION MARK-1y2y3iEND OF TEXT MARKiSECTION MARK WITH TRIDENT AND U-SHAPED ORNAMENTS
  bmDOTTED CRESCENTSbaRAYS AND DOTTED CRESCENTSbqDOUBLE CRESCENTSbqTRIPLE CRESCENTSvDOUBLE RING
  bg WITH RAYSvWITH DOUBLE CRESCENTSbaTRIPLE CRESCENTSbaQUADRUPLE CRESCENTSbaSEPTUPLE CRESCENTS
  baCIRCLES AND RAYSbmTWO ENCLOSURESbmFOUR ENCLOSURESiLETTER THREE-CIRCLE ALTERNATE I
  qWO-CIRCLE ALTERNATE IblIpALTERNATE UiVOWEL SIGN ALTERNATE UbeUa+23+MODI LETTER AnAmInImUnU
  mVOCALIC RvRuLvLmEmAImOmAUmKAnHAmGAnHAmNGAmCAnHAmJAnHAmNYAmTTAoHAmDDAoHAmNNAmTAnHAmDAnHAmNAmPAnHA
  mBAnHAmMAmYAmRAmLAmVAmSHAnSAnAmHAmLLAfVOWEL SIGN AAqIrIqUrUqVOCALIC RzRyLzLqEqAIqOqAU
  fSIGN ANUSVARAkVISARGAmRAMAkARDHACANDRAfDANDAgOUBLE DANDAfABBREVIATION SIGNfSIGN HUVA
  f+c+DIGIT ZEROlONElTWOmHREElFOURmIVElSIXmEVENlEIGHTlNINEc+7+NGOLIAN BIRGA WITH ORNAMENT
  kROTATED BIRGAkDOUBLE BIRGA WITH ORNAMENTkTRIPLE BIRGA WITH ORNAMENTkBIRGA WITH DOUBLE ORNAMENT
  kROTATED BIRGA WITH ORNAMENTbdDOUBLE ORNAMENTkINVERTED BIRGAy WITH DOUBLE ORNAMENTkSWIRL BIRGA
  v WITH ORNAMENTbbDOUBLE ORNAMENTkTURNED SWIRL BIRGA WITH DOUBLE ORNAMENTa+14+TAKRI LETTER AoAnIoI
  nUoUnEnAInOnAUnKAoHAnGAoHAnNGAnCAoHAnJAoHAnNYAnTTApHAnDDApHAnNNAnTAoHAnDAoHAnNAnPAoHAnBAoHAnMAnYA
  nRAnLAnVAnSHAoAnHAnRRAgSIGN ANUSVARAlVISARGAgVOWEL SIGN AArIsIrUsUrErAIrOrAUgSIGN VIRAMAlNUKTA
  gLETTER ARCHAIC KHAgABBREVIATION SIGNg+7+DIGIT ZEROmONEmTWOnHREEmFOURnIVEmSIXnEVENmEIGHTmNINE
  a+37+AHOM LETTER KAnHAmNGAnAmTAmALTERNATE TAmPAnHAmBAmMAmJAmCHAmTHAmRAmLAmSAmNYAmHAmAmDAnHAmGA
  mALTERNATE GAmGHAmBHAmJHAmALTERNATE BAf+3+CONSONANT SIGN MEDIAL LAbbRAbbLIGATING RAfVOWEL SIGN ArA
  qIrIqUrUqEqAWqOqAIrMfSIGN KILLERf+5+DIGIT ZEROlONElTWOmHREElFOURmIVElSIXmEVENlEIGHTlNINE
  fNUMBER TENnWENTYfSIGN SMALL SECTIONlECTIONkRULAIgYMBOL VIfLETTER CAmTTAoHAmDDAoHAmNNAmLLA
  a+ba+DOGRA LETTER AoAnIoInUoUnEnAInOnAUnKAoHAnGAoHAnNGAnCAoHAnJAoHAnNYAnTTApHAnDDApHAnNNAnTAoHAnDA
  oHAnNAnPAoHAnBAoHAnMAnYAnRAnLAnVAnSHAoSAoAnHAnRRAgVOWEL SIGN AArIsIrUsUrVOCALIC RbaRrErAIrOrAU
  gSIGN ANUSVARAlVISARGAnRAMAlNUKTAgABBREVIATION SIGNa+65+WARANG CITI CAPITAL LETTER NGAAbbAbbWIbbYU
  bcAbcObbIIbbUUbbEbbObbANGbbGAbbKObbENYbbYUJbbUCbbENNbbODDbbTTEbbNUNGbbDAbbATbcMbbBUbbPUbbHIYObcOLO
  bdRRbcARbbSSUUbcIIbbVIYOmSMALL LETTER NGAAzAzWIzYUbaAbaOzIIzUUzEzOzANGzGAzKOzENYzYUJzUCzENNzODD
  zTTEzNUNGzDAzATbaMzBUzPUzHIYObaOLObbRRbaARzSSUUbaIIzVIYOmDIGIT ZEROsONEsTWOtHREEsFOURtIVEsSIXtEVEN
  sEIGHTsNINEmNUMBER TENuWENTYuHIRTYtFORTYuIFTYtSIXTYuEVENTYtEIGHTYtNINETYm+d+OM
  aDIVES AKURU LETTER AuAtIuItUuUtEt+3+Ot+3+KAuHAtGAuHAtNGAtCAuHAtJAt+2+NYAtTTAt+2+DDAvHAtNNAtTAuHA
  tDAuHAtNAtPAuHAtBAuHAtMAtYAuYAtRAtLAtVAtSHAuSAuAtHAtLLAtZAmVOWEL SIGN AAxIyIxUyUxEx+2+AIxO
  m+3+SIGN ANUSVARArCANDRABINDUrHALANTAmVIRAMAmPREFIXED NASAL SIGNmMEDIAL YAmINITIAL RAmMEDIAL RA
  mSIGN NUKTAmDOUBLE DANDAmGAP FILLERmEND OF TEXT MARKm+a+DIGIT ZEROsONEsTWOtHREEsFOURtIVEsSIXtEVEN
  sEIGHTsNINEa+47+NANDINAGARI LETTER AuAtIuItUuUtVOCALIC RbcRt+3+EtAItOtAUtKAuHAtGAuHAtNGAtCAuHAtJA
  uHAtNYAtTTAvHAtDDAvHAtNNAtTAuHAtDAuHAtNAtPAuHAtBAuHAtMAtYAtRAtLAtVAtSHAuSAuAtHAtLLAtRRA
  mVOWEL SIGN AAxIyIxUyUxVOCALIC RbgRx+3+ExAIxOxAUmSIGN ANUSVARArVISARGAtRAMArAVAGRAHArSIDDHAM
  mHEADSTROKEmVOWEL SIGN PRISHTHAMATRA Ea+1c+ZANABAZAR SQUARE LETTER ArVOWEL SIGN IbcUEbd,bcEbcOEbd,
  bcAIbdUbcREVERSED IxLENGTH MARKrLETTER KAzHAyGAzHAyNGAyCAzHAyJAyNYAyTTAbaHAyDDAbaHAyNNAyTAzHAyDA
  zHAyNAyPAzHAyBAzHAyMAyTSAbaHAyDZAbaHAyZHAzAy-AyYAyRAyLAyVAySHAzSAzAyHAyKSSArFINAL CONSONANT MARK
  rSIGN VIRAMAwCANDRABINDUbh WITH ORNAMENTbc WITH ORNAMENTwANUSVARAwVISARGA
  rCLUSTER-INITIAL LETTER RAzFINAL LETTER YAbmRAbmLAbmVArINITIAL HEAD MARKrCLOSING HEAD MARK
  rMARK TSHEGwSHADwDOUBLE SHADwLONG TSHEGrINITIAL DOUBLE-LINED HEAD MARK
  rCLOSING DOUBLE-LINED HEAD MARKrSUBJOINERa+9+SOYOMBO LETTER AiVOWEL SIGN ItUEu,tEtOuEtAIuU
  tVOCALIC RbbLoLENGTH MARKiLETTER KAqHApGAqHApNGApCAqHApJAqHApNYApTTArHApDDArHApNNApTAqHApDAqHApNA
  pPAqHApBAqHApMApTSArHApDZApZHAqAp-ApYApRApLApVApSHAqSAqApHApKSSAiSIGN JIHVAMULIYAnUPADHMANIYA
  iCLUSTER-INITIAL LETTER RAbfLAbfSHAbgAiFINAL CONSONANT SIGN GbdKbdNGbdDbdNbdBbdMbdRbdLbdSHbe,bd-A
  iSIGN ANUSVARAnVISARGAiGEMINATION MARKiSUBJOINERiMARK TSHEGnSHADnDOUBLE SHADnPLUTA
  iHEAD MARK WITH MOON AND SUN AND TRIPLE FLAMEboFLAMEbj,iTERMINAL MARK-1w2
  a+e+CANADIAN SYLLABICS NATTILIK HIbeIbdObeObdAbeAbcSHRIbgIbfObgObfAbgAtSPEvIvOvA
  aPAU CIN HAU LETTER PAtKAtLAtMAtDAtZAtVAtNGAtHAtGAtKHAtSAtBAtCAtTAuHAtNAtPHAtRAtFAtCHAtAtEtItOtUuA
  tIAtFINAL PzKzTzMzNzLzWzNGzYmRISING TONE LONGx,mSANDHI GLOTTAL STOPmRISING TONE LONG FINALyFINAL
  mSANDHI GLOTTAL STOP FINALtTONE LONGx,x LONG FINALyFINALmMID-LEVEL TONEmGLOTTAL STOP VARIANT
  mMID-LEVEL TONE LONG FINALbbFINALmLOW-FALLING TONE LONGbc,mGLOTTAL STOP
  mLOW-FALLING TONE LONG FINALbdFINALmGLOTTAL STOP FINALa+108+BHAIKSUKI LETTER AsArIsIrUsUrVOCALIC R
  baRzLr+2+ErAIrOrAUrKAsHArGAsHArNGArCAsHArJAsHArNYArTTAtHArDDAtHArNNArTAsHArDAsHArNArPAsHArBAsHArMA
  rYArRArLArVArSHAsSAsArHAkVOWEL SIGN AAvIwIvUwUvVOCALIC RbeRbdLv+2+EvAIvOvAUkSIGN CANDRABINDU
  pANUSVARApVISARGArRAMApAVAGRAHAkDANDAlOUBLE DANDAkWORD SEPARATORkGAP FILLER-1v2k+b+DIGIT ZEROqONE
  qTWOrHREEqFOURrIVEqSIXrEVENqEIGHTqNINEkNUMBER ONErTWOsHREErFOURsIVErSIXsEVENrEIGHTrNINErTENsWENTY
  sHIRTYrFORTYsIFTYrSIXTYsEVENTYrEIGHTYrNINETYkHUNDREDS UNIT MARKa+4+MARCHEN HEAD MARKiMARK SHAD
  iLETTER KAqHApGApNGApCAqHApJApNYApTAqHApDApNApPAqHApBApMApTSArHApDZApWApZHAqAp-ApYApRApLApSHAqApHA
  pAi+3+SUBJOINED LETTER KAbaHAzGAzNGAzCAbaHAzJAzNYAzTAbaHAzDAzNAzPAbaHAzBAzMAzTSAbbHAzDZAzWAzZHAbaA
  z+2+YAzRAzLAzSHAbaAzHAzAiVOWEL SIGN AAtItUtEtOiSIGN ANUSVARAnCANDRABINDUc+4a+SARAM GONDI LETTER A
  wAvIwIvUwUvEv+2+AIvOv+2+AUvKAwHAvGAwHAvNGAvCAwHAvJAwHAvNYAvTTAxHAvDDAxHAvNNAvTAwHAvDAwHAvNAvPAwHA
  vBAwHAvMAvYAvRAvLAvVAvSHAwSAwAvHAvLLAvKSSAvJNYAvTRAoVOWEL SIGN AAzIbaIzUbaUzVOCALIC Rz+4+Ez+2+AIzO
  z+2+AUoSIGN ANUSVARAtVISARGAtNUKTAtCANDRAtHALANTAoVIRAMAoREPHApA-KARAo+9+DIGIT ZEROuONEuTWOvHREE
  uFOURvIVEuSIXvEVENuEIGHTuNINEa+7+GUNJALA GONDI LETTER AwAvIwIvUwUv+2+EEvAIv+2+OOvAUvYAvVAvBAwHAvMA
  vKAwHAvTAwHAvLAvGAwHAvDAwHAvNAvCAwHAvTTAxHAvLLAvJAwHAvDDAxHAvNGAvPAwHAvHAvRAvSAoVOWEL SIGN AAzIbaI
  zUbaUz+2+EEzAIz+2+OOzAUoSIGN ANUSVARAtVISARGAoVIRAMAoOMo+8+DIGIT ZEROuONEuTWOvHREEuFOURvIVEuSIX
  vEVENuEIGHTuNINEa+137+MAKASAR LETTER KApGApNGApPApBApMApTApDApNApCApJApNYApYApRApLApVApSApAiANGKA
  iVOWEL SIGN ItUtEtOiPASSIMBANGiEND OF SECTIONa+b8+LISU LETTER YHA
  a+10+TAMIL FRACTION ONE THREE-HUNDRED-AND-TWENTIETHtONE-HUNDRED-AND-SIXTIETHtEIGHTIETH
  tSIXTY-FOURTHtFORTIETHtTHIRTY-SECONDpTHREE EIGHTIETHSvSIXTY-FOURTHSpONE TWENTIETHtSIXTEENTH-1bd2
  tTENTHtEIGHTHpTHREE TWENTIETHSvSIXTEENTHSpONE FIFTHtQUARTERtHALF-1y2pTHREE QUARTERS
  pDOWNSCALING FACTOR KIIZHgSIGN NELlCEVITUlAAZHAAKKUlUZHAKKUlMUUVUZHAKKUlKURUNIlPATHAKKUlMUKKURUNI
  lKAACUlPANAMmONlVARAAKANlPAARAMlKUZHIlVELIgWET CULTIVATION SIGNgDRY CULTIVATION SIGNgLAND SIGN
  gSALT PAN SIGNgTRADITIONAL CREDIT SIGNsNUMBER SIGNgCURRENT SIGNgAND ODD SIGNgSPENT SIGNgTOTAL SIGN
  gIN POSSESSION SIGNgSTARTING FROM SIGNhIGN MUTHALIYAlVAKAIYARAAg+e+PUNCTUATION END OF TEXT
  aCUNEIFORM SIGN Aq TIMES AxBADxGAN2 TENUxHAxIGIxLAGAR GUNUxMUSHxSAGq2qBr TIMES ASH2yDUN3 GUNUyGAL
  baN2 TENUyHAyIGI GUNUzMINyLAGABySHESHyU PLUS U PLUS UsGUNUr2s TIMES BALAGzGAN2 TENUzME PLUS EN
  zSHA3zTAK4qDqKr TIMES ERIN2ySHITA PLUS GISHqLr TIMES ALyDIM2yGISHyHAyKAD3zIySHEyUSHrANrEPHqMAR
  t TIMES SHEqNr OVER ANsTHREE TIMESsPLUS NAGA OPPOSING AN PLUS NAGAbcSQUAREDrSHEqPINqRADt TIMES KUR
  rKABqSAL2rHs ZIDA TENUtKABA TENUtOVER ASH TUG2 OVER TUG2 TUG2 OVER TUG2 PAPbcOVER ASH
  bk CROSSING ASH OVER ASH OVER ASHs2sGABpBArDrG3rHAR2rLs OVER BALsAGrRsA2qIr TIMES AyGARyIGI GUNUqU
  r OVER BU ABbaUNsCROSSING BUrLUGu OVER BULUGrRs2pDArGs KISIM5 TIMES A PLUS MASHbhMARbgBALAGbhIbgGA
  bi PLUS MASHbhIbiR2bhUDbgHAbgIRbi PLUS LUbgKAKbgLAbhUbi PLUS MASH2biMbgNEbgPAP PLUS PAPbgSIbgTAK4
  bgU2 PLUS GIR2bhSHrMrRsA3t4qIrBrMs TIMES SHEs2rNs KASKAL U GUNU DISHrSHqUr OVER DUsGUNUsSHESHIGrB
  s TIMES ESH2s2rGsUDrHrNs3t GUNUy GUNUs4rR2pEq TIMES PAPrOVER E NUN OVER NUNq2
  r TIMES A PLUS HA PLUS DAyGARyMIySALzHEyUqDINqGIRqLqNr TIMES GAN2bc TENUyMEsCROSSING EN
  sOPPOSING ENsSQUAREDqRENrIN2qSH2qZENt TIMES Abb PLUS LALbk TIMES LALbbNbaBADbaDUN3 GUNUbj GUNUbaHA
  bc GUNUbaIGI GUNUbaKASKALbg SQUAREDbbU3baLAbcL TIMES LALbbIbbUbaU2bbDpGAr GUNUr2
  s TIMES A PLUS DA PLUS HAbgHAbgIGIbaB2 TENU PLUS TABbaNbaSHbc2 PLUS GALzBADbbR PLUS RAbaUR
  bc PLUS RAzDAbaIbbM TIMES SHEbaUBzELbb PLUS LAbaNbb TIMES GAN2 TENUzGAN2 TENUbbRbaIbb4bc PLUS A
  bbR2 PLUS SUzHA PLUS LU PLUS ESH2bbLbc PLUS LAbaI PLUS LIbaUB2zIGI GUNUbaSH PLUS HU PLUS ASHzKAK
  bbSKALbaIDbc PLUS LALbaU3 PLUS ANzLAzME PLUS ENbaIzNUNbc OVER NUNzPAzSALbbRbaHEbc PLUS TURbbIDbaUM
  zTAK4zUbaDbb PLUS DUtOVER GA2rBAt CROSSING GABArDs OVER GAD GAR OVER GARrL
  s GAD OVER GAD GAR OVER GARsAMrMrNs2t TENUuOVER GAN2uCROSSING GAN2rRs3rSHANqESHTINw TIMES KURqI
  r TIMES EyUsCROSSING GIr4s OVER GI4tCROSSING GI4rDIMrR2t GUNUs3t TIMES A PLUS IGIbaGAN2 TENUbaIGI
  baLU PLUS IGIbaPArSALsHt CROSSING GISHuTIMES BADbaTAK4vENUqUr CROSSING GUr2s TIMES KAK
  bc TIMES IGI GUNUzNUNzSAL PLUS TUG2tGUNUrDs TIMES A PLUS KURzKURtOVER GUD LUGALrLrMs TIMES SHErRs7
  sUNtSHpHAr TENUsGUNUrLqIr TIMES ASHbb2yBADyDISHyGADyKINyNUNySHEyUqUrB2t TIMES ANbaHALbaKASKAL
  baLISHbaUDrL2pIq AqBqDIMt OVER IDIM BURbeSQUAREDqGrIs DIBtRItOVER IGI SHIR OVER SHIR UD OVER UD
  tGUNUqLr TIMES GAN2 TENUr2qMr TIMES TAK4sCROSSING IMsOPPOSING IMsSQUAREDrINqNqRqSHpKAr TIMES AzD
  ba PLUS KU3zSH2yBADbaLAGbaRzIyERIN2zSH2yGAbaLbaN2 TENUbaRbb PLUS SHA3 PLUS AzIbaR2baSH PLUS SAR
  bdCROSSING GISHzUbaR7yIGIzMyKAKzIbaDyLIzUyMEba PLUS DUbgGIbgTEzIba PLUS NUNUZyNEzUNyPIyRUySAbaRzHA
  baEbaIDbaUzIGzUHURyTARyUz2zDzMUM TIMES PAzSHyZIr2s CROSSING KA2rBrD2s3s4s5t OVER KAD5rK
  s TIMES IGI GUNUrLs TIMES BADtCROSSING KALrM2s4rSKALv LAGAB TIMES U OVER LAGAB TIMES U
  wOVER KASKAL LAGAB TIMES U OVER LAGAB TIMES UqESH2qIr TIMES BADyUzDrDrNrSALsHsIM5v OVER KISIM5qU
  r OVER HI TIMES ASH2 KU OVER HI TIMES ASH2r3r4s VARIANT FORMr7rLs GUNUrNrRs OPPOSING KURrSHU2
  qWU318pLArGABu TIMES Abc PLUS DA PLUS HAbiGARbiLALbcLbcNbcSH ZIDA TENUbbBADbcIbbDARbbENbbGAbdRbcUD
  be PLUS GUDbbHAbdLbcI TIMES NUNbbIGI GUNUbcMbd PLUS HAbjLUbbKIbdNbcU3bdLbe PLUS HI PLUS AbbLAGAB
  bcISHbcUbdLbbMEbd PLUS ENbcUSHbbNEbbSHE PLUS SUMbdITA PLUS GISH PLUS ERIN2brTENUbdU2bf PLUS SHU2
  bcUMbbTAGbdK4bcE PLUS A PLUS SU PLUS NAbbUbc PLUS AbiU PLUS Ubc2 PLUS ASHbcDbcSHvSQUAREDtR
  u TIMES SHEbe PLUS SUMvGUNUz OVER LAGAR GUNU SHErHSHUrLs TIMES LALrMs TIMES KURbc PLUS RUqIrLrMMU2
  rSHqUr TIMES BADr2s TIMES ALzBADzESH2bd TENUzGAN2 TENUzHI TIMES BADzIMzKAD2bc3bd PLUS ASHbaI
  zLA PLUS ASHbbGABzME PLUS ENzNEbaUzSI PLUS ASHbbK2 PLUS BUzTUG2uENUtCROSSING LU2tOPPOSING LU2
  tSQUAREDuHESHIGr3rGALu OVER LUGALwPPOSING LUGALvSHESHIGrHrLrMs OVER LUMbb GAR OVER GARpMA
  r TIMES TAK4sGUNUr2rHrRrSHt2qErSqIrNqUr OVER MUrGs GUNUrNSUBrRGU2rSHt TIMES AbaKURbaZAuOVER MUSH
  bd TIMES A PLUS NAuCROSSING MUSHt3u TIMES Abc PLUS DIbbDIvGUNUpNAr2rGAt INVERTEDuTIMES SHU TENU
  uOPPOSING NAGAtRrM NUTILLUs,s2qEr TIMES AyUDsSHESHIGqIr TIMES Er2rMs TIMES GAN2 TENU
  bbR PLUS GAN2 TENUrNDA2v TIMES ANbdSHbf PLUS ASHbcGUDbcME PLUS GAN2 TENUbcNEbdUNbcSHEbf PLUS A AN
  bmSHbo PLUS ASHbcU2 PLUS ASHbdSHrSAGqUr11rNs LAGAR TIMES GARbfMASHbfSALbi OVER NUN LAGAR TIMES SAL
  bfUSHtTENUtOVER NUNtCROSSING NUNbf LAGAR OVER LAGARsUZu AB2 TIMES ASHGABbfBIbfDUGbfGUDbfIGI GUNU
  bfKAD3bfLAbfNEbfSILA3bfU2vKISIM5 TIMES BIbk UpPArDrNrPqESH2qIr TIMES AzByBIzUyEyIzByUz2
  sCROSSING PIrRIGu TIMES KALbbUDbbZAvOPPOSING PIRIGpRArBqIqUpSArG NUTILLUs,s TIMES AzDUbbBzHAzKAK
  baURzLUMzMIzNUNzSALbaHIDzTABzU2baBbaMbaRbaSHtOVER SAGtGUNUrLs LAGAB TIMES ASH2rNGA2rRqHAs3
  t TIMES AbaBADbaGISHbaNEbaSHU2baTURbaUbb PLUS As6sB6sR2rEs HUtOVER SHE GAD OVER GAD GAR OVER GAR
  bcTAB OVER TAB GAR OVER GARsG9sNsSHu2uLAMrIDt TIMES AbaIMsMt TIMES AbaBALbbULUGbaDINbaGARbaIGI
  bd GUNUbaKUSHU2baLULbaMUGbaSALsNIGsRt TENUuOVER SHIR BUR OVER BURsTArUs OVER INVERTED SHUs2sBURqI
  r GUNUrGs4t OVER SIG4 SHU2rK2rLA3qUr OVER SUrDs2rHURrMsASHrRs9pTAr ASTERISKsTIMES HIyMIsGUNUrB
  s OVER TAB NI OVER NI DISH OVER DISHtSQUAREDrGs TIMES BIzGUDzSHEbbUzTUG2zUDrK4rRqEr GUNUqIr TENUrL
  rRs TIMES TAK4tOVER TIRbb GAD OVER GAD GAR OVER GARqUrG2rKrMrRs OVER TUR ZA OVER ZApUq GUDrU U
  rOVER U PA OVER PA GAR OVER GARySUR OVER SURyU REVERSED OVER U REVERSEDq2qBqDr KUSHU2sTIMES BADyMI
  yU PLUS U PLUS Ubn GUNUsGUNUsSHESHIGz TIMES BADrUGqMr TIMES LAGAByME PLUS DAySHA3yUrBINrUM
  t TIMES KASKALbaPAqNr GUNUqRr CROSSING URsSHESHIGr2s TIMES A PLUS HAbgNAbaLzHAzNUNzU2bb PLUS ASH
  bhBIr4rIs3rUs TIMES AbaSHGABzBARzDUNzGAbbLbbN2 TENUbbRbaUzHAzIGIbaMbaSHzKIzLUMzMINzPAzSHEbaIG4zTU
  zU PLUS GUDbaDbaRUDAsDAu TIMES UqSHs TIMES AzKUbbRzTAK4sXs2sUMXqTUKIqZ3s TIMES KASKALrUpZAr TENU
  sSQUARED TIMES KURrGrMXqE2qIr OVER ZIr3rBs KABA TENUrGrZ2qUr5s TIMES ArBURrMpKAP ELAMITE
  pAB TIMES NUNr2 TIMES AqMAR TIMES KUGpDAG KISIM5 TIMES U2 PLUS MASHs3qISH PLUS SHUqUB TIMES SHE
  pEZEN TIMES GUDbaSHEpGA2 TIMES AN PLUS KAK PLUS AbaSH2qE22qIGpHUSHpKA TIMES ANSHEzSH3yGISHzUD
  yHI TIMES ASH2yLUMyPAySHULyTUyUR2pLAGAB TIMES GIqU2 SHESHIG TIMES BADtTIMES ESH2 PLUS LALzSHUpMESH
  qUSH3 TIMES ZApNA4qINs9sDA2 TIMES BALbcGIqU11 ROTATED NINETY DEGREESpPESH2 ASTERISKqIR2
  pSAG TIMES IGI GUNUpTI2pUM TIMES MEq Uk+67+NUMERIC SIGN TWO ASHyHREE ASHxFOUR ASHyIVE ASHxSIX ASH
  yEVEN ASHxEIGHT ASHxNINE ASHxTHREE DISHxFOUR DISHyIVE DISHxSIX DISHyEVEN DISHxEIGHT DISHxNINE DISH
  xFOUR UyIVE UxSIX UyEVEN UxEIGHT UxNINE UxONE GESH2xTWO GESH2yHREE GESH2xFOUR GESH2yIVE GESH2
  xSIX GESH2yEVEN GESH2xEIGHT GESH2xNINE GESH2xONE GESHUxTWO GESHUyHREE GESHUxFOUR GESHUyIVE GESHU
  xTWO SHAR2yHREE SHAR2bi VARIANT FORMxFOUR SHAR2yIVE SHAR2xSIX SHAR2yEVEN SHAR2xEIGHT SHAR2
  xNINE SHAR2xONE SHARUxTWO SHARUyHREE SHARUbi VARIANT FORMxFOUR SHARUyIVE SHARU
  xSHAR2 TIMES GAL PLUS DISHbsMINxONE BURUxTWO BURUyHREE BURUbh VARIANT FORMxFOUR BURUyIVE BURU
  xTHREE VARIANT FORM ESH16bt21xFOUR VARIANT FORM LIMMUbu4bu AbvBxSIX VARIANT FORM ASH9
  yEVEN VARIANT FORM IMIN3bu AbvBxEIGHT VARIANT FORM USSUbu3xNINE VARIANT FORM ILIMMUbv3bv4bv A
  xTWO ASH TENUyHREE ASH TENUxFOUR ASH TENUyIVE ASH TENUxSIX ASH TENUxONE BAN2xTWO BAN2yHREE BAN2
  xFOUR BAN2bg VARIANT FORMyIVE BAN2bg VARIANT FORMxNIGIDAMINbdESHxONE ESHE3xTWO ESHE3
  xONE THIRD DISHxTWO THIRDS DISHxFIVE SIXTHS DISHxONE THIRD VARIANT FORM A
  xTWO THIRDS VARIANT FORM AxONE EIGHTH ASHbbQUARTER ASHyLD ASSYRIAN ONE SIXTHboQUARTER
  yNE QUARTER GURbbHALF GURxELAMITE ONE THIRDbfTWO THIRDSbfFORTYbgIFTYxFOUR U VARIANT FORM
  yIVE U VARIANT FORMxSIX U VARIANT FORMyEVEN U VARIANT FORMxEIGHT U VARIANT FORM
  xNINE U VARIANT FORMk+2+PUNCTUATION SIGN OLD ASSYRIAN WORD DIVIDERbbVERTICAL COLONbbDIAGONAL COLON
  bkTRICOLONbkQUADCOLONk+c+SIGN AB TIMES NUN TENUySHU2qD TIMES ESH2pBAD TIMES DISH TENU
  rHAR2 TIMES AB2bcNIbcZAqU OVER BU TIMES NA2pDA TIMES TAK4rG TIMES KURqIM TIMES IGIzU U U
  s2 TIMES UDqUG TIMES ANSHEbaSHbc AT LEFTzDINbaUNzERIN2zGAbaIbbR2 GUNUbbSHzHAbaIzIGI GUNUzKASKAL
  baURbbSHU2bf PLUS KASKALzLAK-020bbMbc TIMES KURbaUH PLUS GISHzMASHbaESbaIzNIzPIzSHEbaI GUNU
  pE2 TIMES KURyPAPqRIN2 XqSH2 CROSSING ESH2qZEN SHESHIG TIMES ASHbiHIbiIGI GUNUbiLAbkLbiMEbkSbiSU
  uTIMES SUpGA2 TIMES BAHAR2zDIM GUNUbaUG TIMES IGI GUNUbjKASKALzERENzGAbbR PLUS DIbiNEzHA PLUS A
  zKUSHU2 PLUS KASKALzLAMbc TIMES KURbaUHzMUSHzNEbb PLUS E2bhGIzSHIMzZIZ2rBA ROTATED NINETY DEGREES
  qESHTIN TIMES UqISH TIMES GISH CROSSING GISHqU2 TIMES IGI GUNUrD PLUS GISH TIMES TAK4pHA TENU GUNU
  qI TIMES ASH OVER HI TIMES ASHpKA TIMES BUyKAyU U UzRpLAGAB TIMES ZU OVER ZUrK-003u21v5u30u50v1u62
  u79 OVER LAK-079 GUNUu80v1 OVER LAK-081u92t130u42t210v9u20v5v8u38u65v6t343v7v8u83v4u90t441v9
  w TIMES GUbdIGIbdPAP PLUS LU3bmPAP PLUS LU3bdU2 PLUS BAu50v7u70u83u90v2v3v5t550t608u17w TIMES ASH
  bdBADbdDUN3 GUNU GUNUbdKU3bdLAbdTARbeEbdU2beDbeRUDAu36u48w TIMES DUBbdGAbdIGIbg GUNUbdNI
  bdPAP PLUS PAP PLUS LU3bdSHESH PLUS KIbdUDbeRUDAt724u49qU2 GUNU TIMES ASHtTIMES DISHzHALzPAP
  bc PLUS PAP PLUS LU3zTAK4pMI PLUS ZA7qUSH OVER MUSH TIMES GAbkKAKpNINDA2 TIMES DIM GUNUbcGISHbdUL
  bcHIbcKESH2bcLAK-050bcMASHbcPAP PLUS PAPbcUbd PLUS UbdRUDApSAG GUNU TIMES HAtTIMES ENzSHE AT LEFT
  zTAK4qHA6 TENUrE OVER SHEtPLUS HUB2yNAM2ySARrU2 PLUS DUG TIMES NIzE2 TIMES ANqI TIMES TAK4
  pTAK4 PLUS SAGqUM TIMES GAN2 TENUzTHREE DISHpUR2 INVERTEDtTIMES UDrU TIMES DARA3zLAK-668baU3pZA7
  qU OVER ZU PLUS SARr5 TIMES THREE DISH TENUb+a4d+YPRO-MINOAN SIGN CM001w2w4w5w6w7w8w9v10w1w2xBw3w5
  w7w9v21w3w4w5w6w7w8w9v30w3w4w5w6w7w8w9v40w1w4w6w7w9v50w1w2w3w4w5w6w8w9v60w1w2w3w4w6w7w8w9v70w1w2w3
  w4w5xBw6w8w9v80w1w2w3w4w5w6w7w8w9v90w1w2w4w5w6w7w8w9u100w1w2w3w4w5w7w8w9v10w2w4u301w2
  a+e+EGYPTIAN HIEROGLYPH A001x2x3x4x5yAx6yAyBx7x8x9w10x1x2x3x4yAx5x6x7yAx8x9w20x1x2x3x4x5x6x7x8x9
  w30x1x2yAx3x4x5x6x7x8x9w40yAx1x2yAx3yAx4x5yAx6x7x8x9w50x1x2x3x4x5x6x7x8x9w60x1x2x3x4x5x6x7x8x9w70
  uB001x2x3x4x5yAx6x7x8x9uC001x2yAyByCx3x4x5x6x7x8x9w10yAx1x2x3x4x5x6x7x8x9w20x1x2x3x4uD001x2x3x4x5
  x6x7x8yAx9w10x1x2x3x4x5x6x7x8x9w20x1x2x3x4x5x6x7yAx8x9w30x1yAx2x3x4yAx5x6x7x8x9w40x1x2x3x4x5x6yAx7
  x8yAx9w50yAyByCyDyEyFyGyHyIx1x2yAx3x4yAx5x6x7x8x9w60x1x2x3x4x5x6x7yAyByCyDyEyFyGyHuE001x2x3x4x5x6
  x7x8yAx9yAw10x1x2x3x4x5x6yAx7yAx8x9w20yAx1x2x3x4x5x6x7x8yAx9w30x1x2x3x4yAx6x7x8uF001yAx2x3x4x5x6x7
  x8x9w10x1x2x3yAx4x5x6x7x8x9w20x1yAx2x3x4x5x6x7x8x9w30x1yAx2x3x4x5x6x7yAx8yAx9w40x1x2x3x4x5yAx6yAx7
  yAx8x9w50x1yAyByCx2x3uG001x2x3x4x5x6yAx7yAyBx8x9w10x1yAx2x3x4x5x6x7x8x9w20yAx1x2x3x4x5x6yAx7x8x9
  w30x1x2x3x4x5x6yAx7yAx8x9w40x1x2x3yAx4x5yAx6x7x8x9w50x1x2x3x4uH001x2x3x4x5x6yAx7x8uI001x2x3x4x5yA
  x6x7x8x9yAw10yAx1yAx2x3x4x5uK001x2x3x4x5x6x7x8uL001x2yAx3x4x5x6yAx7x8uM001yAyBx2x3yAx4x5x6x7x8x9
  w10yAx1x2yAyByCyDyEyFyGyHx3x4x5yAx6yAx7yAx8x9w20x1x2yAx3x4yAx5x6x7x8yAx9w30x1yAx2x3yAyBx4x5x6x7x8
  x9w40yAx1x2x3x4uN001x2x3x4x5x6x7x8x9w10x1x2x3x4x5x6x7x8yAyBx9w20x1x2x3x4x5yAx6x7x8x9w30x1x2x3yAx4
  yAx5yAx6x7yAx8x9w40x1x2vL001y2y3y4y5zAy6y7y8y9x10y1y2y3y4y5y6y7zAy8y9x20vU001y2y3y4y5y6y7y8y9x10zA
  y1zAy2y3y4y5y6y7y8zAy9x20y1y2zAuO001yAx2x3x4x5yAx6yAyByCyDyEyFx7x8x9w10yAyByCx1x2x3x4x5x6x7x8x9yA
  w20yAx1x2x3x4yAx5yAx6x7x8x9yAw30yAx1x2x3yAx4x5x6yAyByCyDx7x8x9w40x1x2x3x4x5x6x7x8x9w50yAyBx1uP001
  yAx2x3yAx4x5x6x7x8x9w10x1uQ001x2x3x4x5x6x7uR001x2yAx3yAyBx4x5x6x7x8x9w10yAx1x2x3x4x5x6yAx7x8x9w20
  x1x2x3x4x5x6x7x8x9uS001x2yAx3x4x5x6yAx7x8x9w10x1x2x3x4yAyBx5x6x7yAx8x9w20x1x2x3x4x5x6yAyBx7x8x9w30
  x1x2x3x4x5yAx6x7x8x9w40x1x2x3x4x5x6uT001x2x3yAx4x5x6x7yAx8yAx9yAw10x1yAx2x3x4x5x6yAx7x8x9w20x1x2x3
  x4x5x6x7x8x9w30x1x2yAx3yAx4x5x6uU001x2x3x4x5x6yAyBx7x8x9w10x1x2x3x4x5x6x7x8x9w20x1x2x3yAx4x5x6x7x8
  x9yAw30x1x2yAx3x4x5x6x7x8x9w40x1x2uV001yAyByCyDyEyFyGyHyIx2yAx3x4x5x6x7yAyBx8x9w10x1yAyByCx2yAyBx3
  x4x5x6x7x8x9w20yAyByCyDyEyFyGyHyIyJyKyLx1x2x3yAx4x5x6x7x8yAx9yAw30yAx1yAx2x3yAx4x5x6x7yAx8x9w40yA
  uW001x2x3yAx4x5x6x7x8x9yAw10yAx1x2x3x4yAx5x6x7yAx8yAx9w20x1x2x3x4yAx5uX001x2x3x4yAyBx5x6yAx7x8yA
  uY001yAx2x3x4x5x6x7x8uZ001x2yAyByCyDx3yAyBx4yAx5yAx6x7x8x9w10x1x2x3x4x5yAyByCyDyEyFyGyHyIx6yAyByC
  yDyEyFyGyHuAA001y2y3y4y5y6y7zAzBy8y9x10y1y2y3y4y5y6y7y8y9x20y1y2y3y4y5y6y7y8y9x30y1y2
  u+2+VERTICAL JOINERuHORIZONTAL JOINERuINSERT AT TOP STARTbeBOTTOM STARTbeTOP ENDbeBOTTOM END
  uOVERLAY MIDDLEuBEGIN SEGMENTuEND SEGMENT
  "

end BoundQuery.Text.CharacterName
